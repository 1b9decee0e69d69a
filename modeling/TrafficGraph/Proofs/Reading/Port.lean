import TrafficGraph.Proofs.Numeral.Conversion
import TrafficGraph.Proofs.Reading.Start

/-!
# Which texts are ports

The port of a peer and the port of a server are read as leniently as any other number, into a word
of 64 bits, and the word then has to fit into sixteen. So a text is a port if its digits are worth
65535 at most, whatever follows them. Behind a minus sign it is not so simple, for the word wraps
around: there, zero is a port, and so are the 65535 values below 2⁶⁴, as their distance from it.
From 2⁶⁴ on nothing is a port any more. The reading is stuck at the largest word then, which is out
of range, and the sign is not looked at. A server has the same ports as a peer, but for zero.

The number in front of a text is taken apart by `TrafficGraph.Numeral.Leading`, and
`TrafficGraph.Numeral.IsPort` is the table of ports. Both are about the sign and about the value of
the digits, which has no bound, and neither knows of words.

* `TrafficGraph.Numeral.isPort_iff` – the table has the wrap-around right;
* `TrafficGraph.ports_in_range` – what this means for a peer whose host is in order
  (`TrafficGraph.Peer.HasPlace`), and for the server port of a start.
-/

namespace TrafficGraph

namespace Numeral

/-! ### The number in front of a text -/

/-- **The number in front of a text**: blanks as far as they go, at most one sign, digits as far as
they go, and a rest. Any of the four may be empty. A conversion (`TrafficGraph.Numeral.Converts`)
forgets these parts, and here they are kept. -/
structure Leading (text : String) where
  /-- The blanks. -/
  blanks : List Char
  /-- The sign. -/
  sign : Sign
  /-- The digits. -/
  digits : List Char
  /-- What follows the digits. -/
  rest : List Char
  /-- These are the parts of the text. -/
  toList_eq : text.toList = blanks ++ (sign.chars ++ (digits ++ rest))
  /-- Blanks are blank. -/
  isBlank_of_mem : ∀ c ∈ blanks, Text.isBlank c = true
  /-- They go as far as they can. -/
  blanks_end : ∀ c ∈ (sign.chars ++ (digits ++ rest)).head?, Text.isBlank c = false
  /-- A sign is not left out. -/
  no_sign_left : sign = .absent → ∀ c ∈ (digits ++ rest).head?, c ≠ '+' ∧ c ≠ '-'
  /-- Digits are digits. -/
  isDigit_of_mem : ∀ c ∈ digits, c.isDigit = true
  /-- They go as far as they can. -/
  digits_end : ∀ c ∈ rest.head?, c.isDigit = false

namespace Leading

variable {text : String}

/-- The value of the digits, which may be as large as it likes. -/
def value (n : Leading text) : Nat := Nat.ofDigitChars 10 n.digits 0

/-- Every text has a number in front, and be it that of no digits. -/
theorem nonempty (text : String) : Nonempty (Leading text) := by
  obtain ⟨v, hv⟩ := exists_converts Text.isBlank text
  obtain ⟨sign, hblank, hblanks, hsign, hdigit, hdigits⟩ := hv
  exact ⟨⟨_, sign, _, _, String.toList_ofList, hblank, hblanks, hsign, hdigit, hdigits⟩⟩

/-- **The number is what is read.** -/
theorem toNat_lenient (n : Leading text) : (lenient text).toNat = n.sign.number n.value := by
  have h : Converts Text.isBlank (String.ofList text.toList) (n.sign.number n.value) := by
    rw [n.toList_eq]
    exact .of_parts n.sign n.isBlank_of_mem n.blanks_end n.no_sign_left n.isDigit_of_mem
      n.digits_end
  rw [String.ofList_toList] at h
  exact toNat_lenient_of_converts h

end Leading

/-! ### The table of ports -/

/-- **The ports that a sign and a value make.** -/
inductive IsPort : Sign → Nat → Nat → Prop
  /-- A value that is not negated is the port itself. -/
  | plain {sign : Sign} {value : Nat} (hsign : sign ≠ .minus) (h : value ≤ 65535) :
    IsPort sign value value
  /-- Zero is the same with a minus sign. -/
  | zero : IsPort .minus 0 0
  /-- Any other value that is negated is the port by which it falls short of 2⁶⁴. -/
  | wrapped {value : Nat} (hlow : 2 ^ 64 - 65535 ≤ value) (hhigh : value < 2 ^ 64) :
    IsPort .minus value (2 ^ 64 - value)

theorem Sign.number_of_le (sign : Sign) {value : Nat} (h : 2 ^ 64 ≤ value) :
    sign.number value = 2 ^ 64 - 1 := if_pos h

theorem Sign.number_of_lt (sign : Sign) {value : Nat} (h : value < 2 ^ 64) :
    sign.number value = if sign.isMinus then (2 ^ 64 - value) % 2 ^ 64 else value :=
  if_neg (by omega)

theorem Sign.isMinus_eq_false {sign : Sign} (h : sign ≠ .minus) : sign.isMinus = false := by
  cases sign with
  | minus => exact absurd rfl h
  | absent | plus => rfl

/-- A value below 2⁶⁴, but not zero, is negated without a remainder. -/
theorem Sign.number_minus {value : Nat} (hpos : 0 < value) (h : value < 2 ^ 64) :
    Sign.minus.number value = 2 ^ 64 - value := by
  rw [Sign.minus.number_of_lt h]
  exact Nat.mod_eq_of_lt (by omega)

/-- **The ports are the numbers that fit**, of those that are made of a sign and a value. -/
theorem isPort_iff {sign : Sign} {value port : Nat} :
    IsPort sign value port ↔ sign.number value = port ∧ port ≤ 65535 := by
  constructor
  · rintro (⟨hsign, h⟩ | _ | ⟨hlow, hhigh⟩)
    · rw [sign.number_of_lt (by omega), Sign.isMinus_eq_false hsign]
      exact ⟨rfl, h⟩
    · exact ⟨rfl, Nat.zero_le _⟩
    · exact ⟨Sign.number_minus (by omega) hhigh, by omega⟩
  · rintro ⟨rfl, hport⟩
    have hlt : value < 2 ^ 64 := by
      rcases Nat.lt_or_ge value (2 ^ 64) with hlt | hge
      · exact hlt
      · -- the largest word is not a port
        rw [sign.number_of_le hge] at hport
        omega
    by_cases hsign : sign = .minus
    · subst hsign
      rcases Nat.eq_zero_or_pos value with rfl | hpos
      · exact .zero
      · rw [Sign.number_minus hpos hlt] at hport ⊢
        exact .wrapped (by omega) hlt
    · rw [sign.number_of_lt hlt, Sign.isMinus_eq_false hsign, if_neg Bool.false_ne_true] at hport ⊢
      exact .plain hsign hport

/-- A port is made of a value below 2⁶⁴. -/
theorem IsPort.value_lt {sign : Sign} {value port : Nat} (h : IsPort sign value port) :
    value < 2 ^ 64 := by
  cases h <;> omega

namespace Leading

variable {text : String}

/-- **The number is a port**, by the table. -/
def Port (n : Leading text) (port : UInt16) : Prop := IsPort n.sign n.value port.toNat

theorem port_iff {n : Leading text} {port : UInt16} :
    n.Port port ↔ port? (lenient text) = some port := by
  have hlt := port.toNat_lt
  rw [Port, isPort_iff, port?_eq_some_iff, n.toNat_lenient]
  omega

end Leading

end Numeral

/-! ### Ports of peers -/

namespace Peer

/-- **All is in order with a peer but for its port**, of which nothing is said: its host is another
one and is at an address that is not reserved. -/
structure HasPlace (r : Resolver) (text host portText : String) (address : Address) : Prop where
  /-- The text has these parts. -/
  parts : Parts text host portText
  /-- The host is not this one. -/
  not_own : ¬r.IsThisHost host
  /-- It is at the address. -/
  located : r.Located host address
  /-- The address is not the one for "any". -/
  ne_any : address ≠ .any
  /-- Nor is it the one for "none". -/
  ne_none : address ≠ .none

/-- **Only the port decides** about a peer that is in order otherwise. -/
theorem HasPlace.outcome_read {r : Resolver} {text host portText : String} {address : Address}
    (h : HasPlace r text host portText address) (attr : String) :
    (read attr r text).outcome =
      match Numeral.port? (Numeral.lenient portText) with
      | none => .error (.peerPort text attr)
      | some port => .ok (some ⟨address, port⟩) := by
  have husable : address.isUsable = true := Address.isUsable_eq_true_iff.mpr ⟨h.ne_any, h.ne_none⟩
  rw [outcome_read_of_parts h.parts h.not_own, h.located.addressOf_eq]
  rcases Numeral.port? (Numeral.lenient portText) with _ | port
  · rfl
  · exact if_pos husable

end Peer

/-! ### Ports of servers -/

namespace Start

variable {r : Resolver} {time serverport peers socksproxy : String}

/-- **The server port is at fault if and only if it is none**, once all three attributes are
there. -/
theorem outcome_build_eq_serverPort_iff (htime : time ≠ "") (hserverport : serverport ≠ "")
    (hpeers : peers ≠ "") :
    ((Request.start time serverport peers socksproxy).build r).outcome =
        .error (.serverPort serverport) ↔
      port? serverport = none := by
  rw [outcome_build_eq_error_iff, port?_eq_none_iff]
  constructor
  · rintro ⟨i, hwrong, -⟩
    cases hwrong with
    | port h => exact h
    | proxy hne h =>
      -- a peer is never blamed on the server port
      have hattr := (Peer.kind_and_attribute?_of_outcome_read_eq_error h).2
      simp [Fault.attribute?] at hattr
    | peer hstop =>
      have hattr := (Peer.kind_and_attribute?_of_outcome_read_eq_error hstop.outcome_read).2
      simp [Fault.attribute?] at hattr
  · intro h
    refine ⟨3, .port h, fun j hj g hg => ?_⟩
    cases hg with
    | time h => exact htime h
    | serverport h => exact hserverport h
    | peers h => exact hpeers h
    | port | proxy | peer | unusable => omega

end Start

/-! ### The ports -/

/-- **Which texts are ports.** Every text has a number in front, and what the table says of it is
what happens. A peer that is in order otherwise is read with the ports of the table, and is at
fault if there are none. The server port of a start passes its check with those of them that are
not zero, and if there are none, it is what the start is blamed for, provided that all three
attributes are there; a start that is made has such a port. No port has a digit run that is worth
2⁶⁴ or more, however it is signed. -/
theorem ports_in_range (portText : String) :
    Nonempty (Numeral.Leading portText) ∧
      ∀ n : Numeral.Leading portText,
        (∀ (attr : String) (r : Resolver) (text host : String) (address : Address),
          Peer.HasPlace r text host portText address →
          (∀ p, (Peer.read attr r text).outcome = .ok p ↔
            ∃ port, n.Port port ∧ p = some ⟨address, port⟩) ∧
          ∀ f, (Peer.read attr r text).outcome = .error f ↔
            (∀ port, ¬n.Port port) ∧ f = .peerPort text attr) ∧
        (∀ port, Start.port? portText = some port ↔ n.Port port ∧ port ≠ 0) ∧
        (∀ (r : Resolver) (time peers socksproxy : String),
          time ≠ "" → portText ≠ "" → peers ≠ "" →
          let outcome := ((Request.start time portText peers socksproxy).build r).outcome
          (outcome = .error (.serverPort portText) ↔ ∀ port, n.Port port → port = 0) ∧
          ∀ x, outcome = .ok x →
            ∃ s, x = .ofPayload (.start s) ∧ n.Port s.serverPort ∧ s.serverPort ≠ 0) ∧
        (2 ^ 64 ≤ n.value → ∀ port, ¬n.Port port) := by
  refine ⟨Numeral.Leading.nonempty portText, fun n => ?_⟩
  have hport : ∀ port, n.Port port ↔ Numeral.port? (Numeral.lenient portText) = some port :=
    fun port => n.port_iff
  have hserver : ∀ port, Start.port? portText = some port ↔ n.Port port ∧ port ≠ 0 := by
    intro port
    rw [Start.port?, Option.filter_eq_some_iff, bne_iff_ne, hport]
  refine ⟨fun attr r text host address h => ?_, hserver, fun r time peers socksproxy ht hs hp => ?_,
    fun hlarge port h => absurd h.value_lt (Nat.not_lt_of_le hlarge)⟩
  · simp only [h.outcome_read attr, hport]
    rcases Numeral.port? (Numeral.lenient portText) with _ | port
    · simp [eq_comm]
    · simp [eq_comm]
  · refine ⟨?_, fun x hx => ?_⟩
    · rw [Start.outcome_build_eq_serverPort_iff ht hs hp, Option.eq_none_iff_forall_ne_some]
      simp only [ne_eq, hserver, not_and, Decidable.not_not]
    · obtain ⟨s, hread, rfl⟩ := Start.outcome_build_eq_ok_iff.mp hx
      obtain ⟨-, hs, -⟩ := Start.read_eq_ok_iff.mp hread
      obtain ⟨hport, hne⟩ := (hserver _).mp hs
      exact ⟨s, rfl, hport, hne⟩

/-- The least value that wraps around into sixteen bits, and the least that does not fit into a
word. A blank in front of the former and a letter behind it make no difference. -/
theorem ports_in_range_around :
    let r := ((HostTable.empty (some "me")).add "relay" ⟨10, 0, 0, 1⟩).resolver
    let low := " -18446744073709486081x"
    let high := "-18446744073709551616"
    let build (port : String) := ((Request.start "1" port "relay:+007" "").build r).outcome
    let address : Address := ⟨10, 0, 0, 1⟩
    let s : Start := ⟨1, 65535, none, ⟨[⟨address, 7⟩]⟩⟩
    Peer.HasPlace r ("relay:" ++ low) "relay" low address ∧
      (Peer.read "peers" r ("relay:" ++ low)).outcome = .ok (some ⟨address, 65535⟩) ∧
      Start.port? low = some 65535 ∧
      build low = .ok (.ofPayload (.start s)) ∧
      (∃ s' : Start, Action.ofPayload (.start s) = .ofPayload (.start s') ∧ s'.serverPort ≠ 0) ∧
      Peer.HasPlace r ("relay:" ++ high) "relay" high address ∧
      (Peer.read "peers" r ("relay:" ++ high)).outcome =
        .error (.peerPort ("relay:" ++ high) "peers") ∧
      build high = .error (.serverPort high) := by
  intro r low high build address s
  let lowest : Numeral.Leading low :=
    ⟨[' '], .minus, "18446744073709486081".toList, ['x'], by decide, List.all_eq_true.mp rfl,
      by rintro c ⟨⟩; rfl, nofun, List.all_eq_true.mp rfl, by rintro c ⟨⟩; rfl⟩
  let highest : Numeral.Leading high :=
    ⟨[], .minus, "18446744073709551616".toList, [], by decide, nofun, by rintro c ⟨⟩; rfl, nofun,
      List.all_eq_true.mp rfl, nofun⟩
  have hplace (port : String) : Peer.HasPlace r ("relay:" ++ port) "relay" port address := by
    refine ⟨⟨?_, by decide⟩, ?_, ?_, by decide, by decide⟩
    · simp [String.toList_append]
    · rintro ⟨name, hname, hlower⟩
      cases hname
      revert hlower
      decide
    · exact .found (mt isLocalHost_iff.mp (by decide)) (mt isAnyHost_iff.mp (by decide)) (by decide)
  have hvalue : lowest.value = 18446744073709486081 := by decide
  have hport : lowest.Port 65535 := by
    rw [Numeral.Leading.Port, hvalue]
    exact @Numeral.IsPort.wrapped 18446744073709486081 (by decide) (by decide)
  obtain ⟨hpeer, hserver, hstart, -⟩ := (ports_in_range low).2 lowest
  obtain ⟨hpeer', -, hstart', hlarge⟩ := (ports_in_range high).2 highest
  have hnone := hlarge (by decide)
  have hbuild : build low = .ok (.ofPayload (.start s)) := by
    dsimp only [r, build, low, s]
    rfl
  obtain ⟨s', hs', -, hne⟩ :=
    (hstart r "1" "relay:+007" "" (by decide) (by decide) (by decide)).2 _ hbuild
  exact ⟨hplace low, ((hpeer _ _ _ _ _ (hplace low)).1 _).mpr ⟨65535, hport, rfl⟩,
    (hserver 65535).mpr ⟨hport, by decide⟩, hbuild, ⟨s', hs', hne⟩, hplace high,
    ((hpeer' _ _ _ _ _ (hplace high)).2 _).mpr ⟨hnone, rfl⟩,
    (hstart' r "1" "relay:+007" "" (by decide) (by decide) (by decide)).1.mpr fun port h =>
      absurd h (hnone port)⟩

end TrafficGraph
