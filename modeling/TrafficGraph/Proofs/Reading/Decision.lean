import TrafficGraph.Proofs.Fault.Echo
import TrafficGraph.Proofs.Reading.Peers

/-!
# How a peer is decided

A peer can be wrong in several ways at once – this host by name, with a port that is out of range
and an address that is reserved –, and which of them counts is a matter of order. The decision is
written down here as a table (`TrafficGraph.Peer.Decides`): one constructor for each answer, which
says when the answer is given and is silent about everything that does not matter to it. The port
of this host is such a thing, and so is the address behind a port that is too large.

The table speaks of texts and their parts, not of the functions that take them apart. Where a host
is has a table of its own (`TrafficGraph.Resolver.Located`); the address that stands for none is an
answer there like any other, so that a host which cannot be found and a host which a resolver puts
at a reserved address are decided alike.

`TrafficGraph.Peer.read_decides` says that what is read is what the table says.
-/

namespace TrafficGraph

/-! ### Hosts -/

/-- The host begins with `localhost`, in any letter case. -/
def IsLocalHost (host : String) : Prop :=
  ∃ front back, host = front ++ back ∧ Text.lower front = "localhost"

/-- The host begins with the reserved address for "any". -/
def IsAnyHost (host : String) : Prop := ∃ back, host = "0.0.0.0" ++ back

theorem isLocalHost_iff {host : String} :
    IsLocalHost host ↔ Text.beginsLike "localhost" host = true := by
  have hword : Text.lower "localhost" = "localhost" := rfl
  rw [Text.beginsLike_iff, hword]
  rfl

theorem isAnyHost_iff {host : String} : IsAnyHost host ↔ Text.beginsWith "0.0.0.0" host = true :=
  Text.beginsWith_iff.symm

/-- The two beginnings exclude each other, for no letter is a digit in lower case. -/
theorem not_isLocalHost_of_isAnyHost {host : String} (h : IsAnyHost host) : ¬IsLocalHost host := by
  obtain ⟨back, rfl⟩ := h
  rw [isLocalHost_iff, Text.beginsLike_iff_take, String.toList_append]
  intro h
  have hfirst : '0' = 'l' := (List.cons.inj h).1
  cases hfirst

namespace Resolver

/-- **The host is this one**: the name of this host is known, and the two are the same in lower
case. -/
def IsThisHost (r : Resolver) (host : String) : Prop :=
  ∃ name, r.ownName = some name ∧ Text.lower name = Text.lower host

theorem isThisHost_iff {r : Resolver} {host : String} :
    r.IsThisHost host ↔ r.isOwn host = true := by
  rw [IsThisHost, isOwn]
  rcases r.ownName with _ | name
  · exact iff_of_false (by rintro ⟨name, h, -⟩; cases h) Bool.false_ne_true
  · rw [Text.alike_iff]
    constructor
    · rintro ⟨name', h, hlower⟩
      cases h
      exact hlower
    · exact fun h => ⟨name, rfl, h⟩

/-- **Where a host is**: at the loopback address or at the reserved one if it begins so, where the
look-up finds it otherwise, and at the address that stands for none if it is not found. -/
inductive Located (r : Resolver) (host : String) : Address → Prop
  /-- The host is this machine. -/
  | loopback (h : IsLocalHost host) : Located r host .loopback
  /-- The host is any. -/
  | any (h : IsAnyHost host) : Located r host .any
  /-- The host is looked up and found. -/
  | found {address : Address} (hlocal : ¬IsLocalHost host) (hany : ¬IsAnyHost host)
      (h : r.lookup host = some address) : Located r host address
  /-- The host is looked up and not found. -/
  | missing (hlocal : ¬IsLocalHost host) (hany : ¬IsAnyHost host) (h : r.lookup host = none) :
    Located r host .none

/-- Every host is somewhere. -/
theorem exists_located (r : Resolver) (host : String) : ∃ address, r.Located host address := by
  by_cases hlocal : IsLocalHost host
  · exact ⟨_, .loopback hlocal⟩
  · by_cases hany : IsAnyHost host
    · exact ⟨_, .any hany⟩
    · rcases h : r.lookup host with _ | address
      · exact ⟨_, .missing hlocal hany h⟩
      · exact ⟨_, .found hlocal hany h⟩

/-- **A host is taken to be where it is.** -/
theorem Located.addressOf_eq {r : Resolver} {host : String} {address : Address}
    (h : r.Located host address) : r.addressOf host = address := by
  rw [addressOf]
  cases h with
  | loopback hlocal => rw [if_pos (isLocalHost_iff.mp hlocal)]
  | any hany =>
    rw [if_neg (mt isLocalHost_iff.mpr (not_isLocalHost_of_isAnyHost hany)),
      if_pos (isAnyHost_iff.mp hany)]
  | found hlocal hany h =>
    rw [if_neg (mt isLocalHost_iff.mpr hlocal), if_neg (mt isAnyHost_iff.mpr hany), h]
    rfl
  | missing hlocal hany h =>
    rw [if_neg (mt isLocalHost_iff.mpr hlocal), if_neg (mt isAnyHost_iff.mpr hany), h]
    rfl

end Resolver

theorem Address.isUsable_eq_true_iff {x : Address} : x.isUsable = true ↔ x ≠ any ∧ x ≠ none := by
  rw [isUsable, Bool.and_eq_true, bne_iff_ne, bne_iff_ne]

theorem Address.isUsable_eq_false_iff {x : Address} : x.isUsable = false ↔ x = any ∨ x = none := by
  rw [isUsable, Bool.and_eq_false_iff, bne_eq_false_iff_eq, bne_eq_false_iff_eq]

/-- **A host at a reserved address is as good as one that is not found.** If a host is put there
by one resolver and not found by another, both take it to be at the same address, or neither at
an address that can be used. -/
theorem Resolver.addressOf_eq_or_not_isUsable {r r' : Resolver} {host : String} {address : Address}
    (hreserved : address = .any ∨ address = .none) (hfound : r.lookup host = some address)
    (hmissing : r'.lookup host = none) :
    r.addressOf host = r'.addressOf host ∨
      (r.addressOf host).isUsable = false ∧ (r'.addressOf host).isUsable = false := by
  by_cases hlocal : IsLocalHost host
  · rw [(Located.loopback hlocal).addressOf_eq, (Located.loopback hlocal).addressOf_eq]
    exact Or.inl rfl
  · by_cases hany : IsAnyHost host
    · rw [(Located.any hany).addressOf_eq, (Located.any hany).addressOf_eq]
      exact Or.inl rfl
    · -- only here is the host looked up
      rw [(Located.found hlocal hany hfound).addressOf_eq,
        (Located.missing hlocal hany hmissing).addressOf_eq]
      exact Or.inr ⟨Address.isUsable_eq_false_iff.mpr hreserved, rfl⟩

/-! ### The table -/

namespace Peer

/-- **The parts of a peer**: what stands in front of the first colon, and everything behind it. -/
structure Parts (text host portText : String) : Prop where
  /-- The text is its parts and the colon between them. -/
  toList_eq : text.toList = host.toList ++ ':' :: portText.toList
  /-- The colon is the first one. -/
  colon_not_mem : ':' ∉ host.toList

theorem parts_iff {text host portText : String} :
    Parts text host portText ↔ Text.cut? ':' text = some (host, portText) := by
  rw [Text.cut?_eq_some_iff]
  exact ⟨fun h => ⟨h.toList_eq, h.colon_not_mem⟩, fun h => ⟨h.1, h.2⟩⟩

/-- **The text names this host**, in front of its first colon. What stands behind it may be
anything. -/
def NamesOwn (r : Resolver) (text : String) : Prop :=
  ∃ host portText, Parts text host portText ∧ r.IsThisHost host

/-- **How a peer is decided.** -/
inductive Decides (attr : String) (r : Resolver) (text : String) :
    Except Fault (Option Peer) → Prop
  /-- Without a colon there is no peer. -/
  | shape (h : ':' ∉ text.toList) : Decides attr r text (.error (.peerShape attr))
  /-- This host is no peer, whatever its port, and wherever it is. -/
  | own {host portText : String} (parts : Parts text host portText) (h : r.IsThisHost host) :
    Decides attr r text (.ok none)
  /-- A port that has more than sixteen bits is a fault, wherever the host is. -/
  | port {host portText : String} (parts : Parts text host portText) (hown : ¬r.IsThisHost host)
      (hport : 65535 < (Numeral.lenient portText).toNat) :
      Decides attr r text (.error (.peerPort text attr))
  /-- A host at a reserved address is a fault. -/
  | host {host portText : String} {address : Address} (parts : Parts text host portText)
      (hown : ¬r.IsThisHost host) (hport : (Numeral.lenient portText).toNat ≤ 65535)
      (haddress : r.Located host address) (hreserved : address = .any ∨ address = .none) :
      Decides attr r text (.error (.peerHost text attr))
  /-- Anything else is a peer. -/
  | peer {host portText : String} {p : Peer} (parts : Parts text host portText)
      (hown : ¬r.IsThisHost host) (hport : (Numeral.lenient portText).toNat = p.port.toNat)
      (haddress : r.Located host p.address) (hany : p.address ≠ .any) (hnone : p.address ≠ .none) :
      Decides attr r text (.ok (some p))

variable {attr : String} {r : Resolver} {text : String}

/-- Whatever is wrong with a peer is a fault of its content. -/
theorem Decides.kind_eq {f : Fault} (h : Decides attr r text (.error f)) :
    f.kind = .invalidContent := by
  cases h <;> rfl

/-- The message names the attribute, and the text as well if it has a colon. -/
theorem Decides.names {f : Fault} (h : Decides attr r text (.error f)) :
    f.Names attr ∧ (':' ∈ text.toList → f.Names text) := by
  cases h with
  | shape h => exact ⟨Fault.names_of_attribute? rfl, fun hcolon => absurd hcolon h⟩
  | port | host =>
    exact ⟨Fault.names_of_attribute? rfl, fun _ => Fault.names_of_mem_echoed List.mem_cons_self⟩

/-- **Some row of the table applies.** -/
theorem exists_decides (attr : String) (r : Resolver) (text : String) :
    ∃ o, Decides attr r text o := by
  rcases hcut : Text.cut? ':' text with _ | ⟨host, portText⟩
  · exact ⟨_, .shape (Text.cut?_eq_none_iff.mp hcut)⟩
  · have hparts : Parts text host portText := parts_iff.mpr hcut
    by_cases hown : r.IsThisHost host
    · exact ⟨_, .own hparts hown⟩
    · rcases Nat.lt_or_ge 65535 (Numeral.lenient portText).toNat with hport | hport
      · exact ⟨_, .port hparts hown hport⟩
      · obtain ⟨address, haddress⟩ := r.exists_located host
        by_cases hreserved : address = .any ∨ address = .none
        · exact ⟨_, .host hparts hown hport haddress hreserved⟩
        · have hword : (UInt16.ofNat (Numeral.lenient portText).toNat).toNat =
              (Numeral.lenient portText).toNat :=
            UInt16.toNat_ofNat_of_lt (Nat.lt_succ_of_le hport)
          obtain ⟨hany, hnone⟩ := not_or.mp hreserved
          exact ⟨.ok (some ⟨address, _⟩), .peer hparts hown hword.symm haddress hany hnone⟩

theorem outcome_read_of_parts {host portText : String} (hparts : Parts text host portText)
    (hown : ¬r.IsThisHost host) :
    (read attr r text).outcome =
      match Numeral.port? (Numeral.lenient portText) with
      | none => .error (.peerPort text attr)
      | some port =>
        if (r.addressOf host).isUsable then .ok (some ⟨r.addressOf host, port⟩)
        else .error (.peerHost text attr) := by
  rw [outcome_read, parts_iff.mp hparts]
  exact if_neg (mt Resolver.isThisHost_iff.mpr hown)

/-- **What is read is what the table says.** -/
theorem Decides.outcome_eq {o : Except Fault (Option Peer)} (h : Decides attr r text o) :
    (read attr r text).outcome = o := by
  cases h with
  | shape h => rw [outcome_read, Text.cut?_eq_none_iff.mpr h]
  | own hparts hown =>
    rw [outcome_read, parts_iff.mp hparts]
    exact if_pos (Resolver.isThisHost_iff.mp hown)
  | port hparts hown hport =>
    rw [outcome_read_of_parts hparts hown, Numeral.port?_eq_none_iff.mpr hport]
  | @host host portText address hparts hown hport haddress hreserved =>
    have hfits : (Numeral.lenient portText).toNat < UInt16.size := Nat.lt_succ_of_le hport
    rw [outcome_read_of_parts hparts hown, Numeral.port?, if_pos hfits, haddress.addressOf_eq]
    refine if_neg fun husable => ?_
    obtain ⟨hany, hnone⟩ := Address.isUsable_eq_true_iff.mp husable
    exact hreserved.elim hany hnone
  | peer hparts hown hport haddress hany hnone =>
    rw [outcome_read_of_parts hparts hown, Numeral.port?_eq_some_iff.mpr hport.symm,
      haddress.addressOf_eq]
    exact if_pos (Address.isUsable_eq_true_iff.mpr ⟨hany, hnone⟩)

/-- A text that names this host is read as no peer. -/
theorem NamesOwn.outcome_read (h : NamesOwn r text) : (read attr r text).outcome = .ok none := by
  obtain ⟨host, portText, hparts, hown⟩ := h
  exact Decides.outcome_eq (.own hparts hown)

/-- Two resolvers that know this host by the same name agree on a peer if one puts its host at a
reserved address and the other does not find it. -/
theorem outcome_read_eq_of_reserved {r' : Resolver} {host portText : String} {address : Address}
    (hname : r'.ownName = r.ownName) (hparts : Parts text host portText)
    (hreserved : address = .any ∨ address = .none) (hfound : r.lookup host = some address)
    (hmissing : r'.lookup host = none) :
    (read attr r text).outcome = (read attr r' text).outcome := by
  have hthis : r'.IsThisHost host ↔ r.IsThisHost host := by
    rw [Resolver.IsThisHost, Resolver.IsThisHost, hname]
  by_cases hown : r.IsThisHost host
  · rw [Decides.outcome_eq (.own hparts hown), Decides.outcome_eq (.own hparts (hthis.mpr hown))]
  · rw [outcome_read_of_parts hparts hown, outcome_read_of_parts hparts (mt hthis.mp hown)]
    rcases Resolver.addressOf_eq_or_not_isUsable hreserved hfound hmissing with he | ⟨h, h'⟩
    · rw [he]
    · rw [h, h']
      rfl

/-- **A peer is decided as the table says**, whatever the resolver, and a fault is one of content
always, whose message names the attribute, and the text too unless it has no colon. A host that the
look-up puts at a reserved address is decided just like a host that it does not find. -/
theorem read_decides (attr : String) (r : Resolver) (text : String) :
    (∀ o, (read attr r text).outcome = o ↔ Decides attr r text o) ∧
      (∀ f : Fault, Decides attr r text (.error f) →
        f.kind = .invalidContent ∧ f.Names attr ∧ (':' ∈ text.toList → f.Names text)) ∧
      ∀ (r' : Resolver) (host portText : String) (address : Address), r'.ownName = r.ownName →
        Parts text host portText → (address = .any ∨ address = .none) →
        r.lookup host = some address → r'.lookup host = none →
        (read attr r text).outcome = (read attr r' text).outcome := by
  refine ⟨fun o => ⟨fun h => ?_, Decides.outcome_eq⟩, fun f h => ⟨h.kind_eq, h.names⟩,
    fun r' host portText address => outcome_read_eq_of_reserved⟩
  obtain ⟨o', ho'⟩ := exists_decides attr r text
  rw [← h, ho'.outcome_eq]
  exact ho'

/-- A resolver that knows this host as `me` and puts `mars` at the address that stands for none.
There `mars` is no better off than where nothing is known of it, a port that is too large goes
before its address, and this host goes before both. -/
theorem read_decides_mars :
    let lost : Resolver := ⟨some "me", fun host => if host = "mars" then some .none else none⟩
    let empty : Resolver := ⟨some "me", fun _ => none⟩
    Parts "mars:80" "mars" "80" ∧ lost.lookup "mars" = some .none ∧ empty.lookup "mars" = none ∧
      (read "peers" lost "mars:80").outcome = (read "peers" empty "mars:80").outcome ∧
      Decides "peers" lost "mars:80" (.error (.peerHost "mars:80" "peers")) ∧
      (Fault.peerHost "mars:80" "peers").kind = .invalidContent ∧
      (Fault.peerHost "mars:80" "peers").Names "mars:80" ∧
      Decides "peers" lost "mars:-1" (.error (.peerPort "mars:-1" "peers")) ∧
      Decides "peers" lost "ME:-1:mars" (.ok none) ∧
      Decides "peers" lost "LocalHosts: 9:8" (.ok (some ⟨.loopback, 9⟩)) ∧
      Decides "peers" lost "0.0.0.0.mars:9" (.error (.peerHost "0.0.0.0.mars:9" "peers")) := by
  intro lost empty
  have hparts : Parts "mars:80" "mars" "80" := ⟨rfl, by decide⟩
  have hlost : lost.lookup "mars" = some .none := rfl
  have hhost : Decides "peers" lost "mars:80" (.error (.peerHost "mars:80" "peers")) :=
    ((read_decides "peers" lost "mars:80").1 _).mp rfl
  obtain ⟨hkind, -, hnames⟩ := (read_decides "peers" lost "mars:80").2.1 _ hhost
  exact ⟨hparts, hlost, rfl,
    (read_decides "peers" lost "mars:80").2.2 empty "mars" "80" .none rfl hparts (Or.inr rfl) hlost
      rfl,
    hhost, hkind, hnames (by decide),
    ((read_decides "peers" lost "mars:-1").1 _).mp rfl,
    ((read_decides "peers" lost "ME:-1:mars").1 _).mp rfl,
    ((read_decides "peers" lost "LocalHosts: 9:8").1 _).mp rfl,
    ((read_decides "peers" lost "0.0.0.0.mars:9").1 _).mp rfl⟩

end Peer

end TrafficGraph
