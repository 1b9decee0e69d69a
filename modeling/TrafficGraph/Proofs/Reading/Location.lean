import TrafficGraph.Proofs.Address.Dotted
import TrafficGraph.Proofs.Reading.Decision
import TrafficGraph.Proofs.Text.Bytes

/-!
# Where a host is, byte by byte

Two beginnings of a host are answered without a look-up, and both are beginnings in bytes: nine of
them for `localhost`, seven for `0.0.0.0`. A host may hold any characters, so the ninth byte may be
in the middle of one, and then there is no text of nine bytes to compare with the word. This module
writes down the decision with nothing but bytes and the look-up
(`TrafficGraph.Resolver.LocatedByBytes`), the warning for a host without an address included, and
says that this is how a host is located, whatever it holds
(`TrafficGraph.Resolver.locate_by_bytes`).

The two beginnings are not in the way of addresses. What is written as an address is looked up, and
only `0.0.0.0` is not (`TrafficGraph.isLookedUp_text_iff`).
-/

namespace TrafficGraph

/-! ### The two beginnings -/

/-- The first nine bytes of the host are those of `localhost`, up to the case of ASCII letters. -/
def OpensLocal (host : String) : Prop :=
  ((Text.bytes host).take 9).map Text.lowerByte = Text.bytes "localhost"

/-- The first seven bytes of the host are those of `0.0.0.0`. -/
def OpensAny (host : String) : Prop := (Text.bytes host).take 7 = Text.bytes "0.0.0.0"

theorem opensLocal_iff {host : String} :
    OpensLocal host ↔ Text.beginsLike "localhost" host = true := by
  have hsize : "localhost".utf8ByteSize = 9 := by decide
  have hword : (Text.bytes "localhost").map Text.lowerByte = Text.bytes "localhost" := by decide
  rw [Text.beginsLike_iff_bytes, hsize, hword, OpensLocal]

theorem opensAny_iff {host : String} :
    OpensAny host ↔ Text.beginsWith "0.0.0.0" host = true := by
  have hsize : "0.0.0.0".utf8ByteSize = 7 := by decide
  rw [Text.beginsWith_iff_bytes, hsize, OpensAny]

/-- **Cutting off nine bytes is as good as looking at them.** Where they do not end with a
character, they are not those of the word. -/
theorem exists_front?_alike_iff {host : String} :
    (∃ front, Text.front? 9 host = some front ∧ Text.alike "localhost" front = true) ↔
      OpensLocal host := by
  have hsize : "localhost".utf8ByteSize = 9 := by decide
  rw [opensLocal_iff, Text.beginsLike, Option.any_eq_true, hsize]

namespace Resolver

/-- **Where a host is**, told from its bytes, and what is logged. -/
inductive LocatedByBytes (r : Resolver) (host : String) : Logged Address → Prop
  /-- The host is this machine. -/
  | loopback (h : OpensLocal host) : LocatedByBytes r host (pure .loopback)
  /-- The host is any. -/
  | any (hlocal : ¬OpensLocal host) (h : OpensAny host) : LocatedByBytes r host (pure .any)
  /-- The host is looked up and found. -/
  | found {address : Address} (hlocal : ¬OpensLocal host) (hany : ¬OpensAny host)
      (h : r.lookup host = some address) : LocatedByBytes r host (pure address)
  /-- The host is looked up and not found, and this is logged. -/
  | missing (hlocal : ¬OpensLocal host) (hany : ¬OpensAny host) (h : r.lookup host = none) :
    LocatedByBytes r host ⟨.ok .none, [.unresolved host]⟩

variable {r : Resolver} {host : String}

/-- Every host is somewhere. -/
theorem exists_locatedByBytes (r : Resolver) (host : String) :
    ∃ located, r.LocatedByBytes host located := by
  by_cases hlocal : OpensLocal host
  · exact ⟨_, .loopback hlocal⟩
  · by_cases hany : OpensAny host
    · exact ⟨_, .any hlocal hany⟩
    · rcases h : r.lookup host with _ | address
      · exact ⟨_, .missing hlocal hany h⟩
      · exact ⟨_, .found hlocal hany h⟩

/-- **A host is located where its bytes say.** -/
theorem LocatedByBytes.locate_eq {located : Logged Address} (h : r.LocatedByBytes host located) :
    r.locate host = located := by
  rw [locate]
  cases h with
  | loopback hlocal => rw [if_pos (opensLocal_iff.mp hlocal)]
  | any hlocal hany =>
    rw [if_neg (mt opensLocal_iff.mpr hlocal), if_pos (opensAny_iff.mp hany)]
  | found hlocal hany h =>
    rw [if_neg (mt opensLocal_iff.mpr hlocal), if_neg (mt opensAny_iff.mpr hany), h]
  | missing hlocal hany h =>
    rw [if_neg (mt opensLocal_iff.mpr hlocal), if_neg (mt opensAny_iff.mpr hany), h]
    rfl

theorem locate_eq_iff {located : Logged Address} :
    r.locate host = located ↔ r.LocatedByBytes host located := by
  refine ⟨fun h => ?_, LocatedByBytes.locate_eq⟩
  obtain ⟨located', h'⟩ := exists_locatedByBytes r host
  rw [← h, h'.locate_eq]
  exact h'

end Resolver

/-! ### What does not depend on the resolver -/

/-- **The host is looked up**: whatever a resolver knows about it is what counts. -/
def IsLookedUp (host : String) : Prop :=
  ∀ (r : Resolver) (address : Address), r.lookup host = some address → r.locate host = pure address

/-- A host that opens like `localhost` is this machine for every resolver, and no other is. -/
theorem forall_locate_eq_loopback_iff {host : String} :
    (∀ r : Resolver, r.locate host = pure .loopback) ↔ OpensLocal host := by
  refine ⟨fun h => Classical.byContradiction fun hlocal => ?_, fun hlocal r =>
    (Resolver.LocatedByBytes.loopback hlocal).locate_eq⟩
  -- any other host is any, for a resolver that puts every host there
  have hany : (⟨none, fun _ => some .any⟩ : Resolver).locate host = pure .any := by
    by_cases hany : OpensAny host
    · exact (Resolver.LocatedByBytes.any hlocal hany).locate_eq
    · exact (Resolver.LocatedByBytes.found hlocal hany rfl).locate_eq
  rw [h] at hany
  cases congrArg Logged.outcome hany

/-- A host that opens like `0.0.0.0` is any for every resolver, and no other is. -/
theorem forall_locate_eq_any_iff {host : String} :
    (∀ r : Resolver, r.locate host = pure .any) ↔ ¬OpensLocal host ∧ OpensAny host := by
  refine ⟨fun h => Classical.byContradiction fun hnot => ?_, fun ⟨hlocal, hany⟩ r =>
    (Resolver.LocatedByBytes.any hlocal hany).locate_eq⟩
  have hloopback : (⟨none, fun _ => some .loopback⟩ : Resolver).locate host = pure .loopback := by
    by_cases hlocal : OpensLocal host
    · exact (Resolver.LocatedByBytes.loopback hlocal).locate_eq
    · have hany : ¬OpensAny host := fun hany => hnot ⟨hlocal, hany⟩
      exact (Resolver.LocatedByBytes.found hlocal hany rfl).locate_eq
  rw [h] at hloopback
  cases congrArg Logged.outcome hloopback

/-- Nothing but the two beginnings is in the way of a look-up. -/
theorem isLookedUp_iff {host : String} :
    IsLookedUp host ↔ ¬OpensLocal host ∧ ¬OpensAny host := by
  constructor
  · intro h
    have hlocal : ¬OpensLocal host := fun hlocal => by
      have hfixed := forall_locate_eq_loopback_iff.mpr hlocal ⟨none, fun _ => some .any⟩
      rw [h _ .any rfl] at hfixed
      cases congrArg Logged.outcome hfixed
    refine ⟨hlocal, fun hany => ?_⟩
    have hfixed := forall_locate_eq_any_iff.mpr ⟨hlocal, hany⟩ ⟨none, fun _ => some .loopback⟩
    rw [h _ .loopback rfl] at hfixed
    cases congrArg Logged.outcome hfixed
  · rintro ⟨hlocal, hany⟩ r address h
    exact (Resolver.LocatedByBytes.found hlocal hany h).locate_eq

/-- **What is written as an address is looked up**, unless it is the reserved one for "any". -/
theorem isLookedUp_text_iff (x : Address) : IsLookedUp x.text ↔ x ≠ .any := by
  have hlocal : ¬OpensLocal x.text := by
    rw [opensLocal_iff, Address.beginsLike_localhost_text]
    exact Bool.false_ne_true
  rw [isLookedUp_iff, and_iff_right hlocal, opensAny_iff]
  refine not_congr ⟨Address.eq_any_of_beginsWith, ?_⟩
  rintro rfl
  rfl

/-! ### The location -/

namespace Resolver

/-- **A host is located by its bytes**, whatever they are. What is answered and logged is what the
rows say. A host is this machine for every resolver if and only if its first nine bytes are like
`localhost`, and otherwise any for every resolver if and only if its first seven are `0.0.0.0`.
Nine bytes are cut off if they end where a character ends, and only then; what is cut off are the
first nine bytes, and it is like the word if and only if they are. And a host that is an address as
it is written is looked up, unless the address is `0.0.0.0`. -/
theorem locate_by_bytes (host : String) :
    (∀ (r : Resolver) (located : Logged Address),
        r.locate host = located ↔ r.LocatedByBytes host located) ∧
      ((∀ r : Resolver, r.locate host = pure .loopback) ↔ OpensLocal host) ∧
      ((∀ r : Resolver, r.locate host = pure .any) ↔ ¬OpensLocal host ∧ OpensAny host) ∧
      ((∃ front, Text.front? 9 host = some front) ↔ (String.Pos.Raw.mk 9).IsValid host) ∧
      (∀ front, Text.front? 9 host = some front → Text.bytes front = (Text.bytes host).take 9) ∧
      ((∃ front, Text.front? 9 host = some front ∧ Text.alike "localhost" front = true) ↔
        OpensLocal host) ∧
      ∀ x : Address, host = x.text → (IsLookedUp host ↔ x ≠ .any) := by
  refine ⟨fun r located => locate_eq_iff, forall_locate_eq_loopback_iff, forall_locate_eq_any_iff,
    Text.exists_front?_iff, fun front => Text.bytes_of_front?_eq_some, exists_front?_alike_iff, ?_⟩
  rintro x rfl
  exact isLookedUp_text_iff x

/-- Two hosts with a character of two bytes. In the first it is the ninth and the tenth, so nine
bytes end inside it, and the host is looked up; in the second it comes after nine that are the word,
in capitals. Behind `0.0.0.0` any character may follow. Of two addresses that begin alike, one is
looked up and the other, which is this beginning, is not. -/
theorem locate_by_bytes_accented :
    let r : Resolver := ⟨none, fun host => if host = "localhosé" then some ⟨10, 0, 0, 1⟩ else none⟩
    let address : Address := ⟨0, 0, 0, 10⟩
    ¬(String.Pos.Raw.mk 9).IsValid "localhosé" ∧ ¬OpensLocal "localhosé" ∧
      r.LocatedByBytes "localhosé" (pure ⟨10, 0, 0, 1⟩) ∧
      Text.front? 9 "LOCALHOSTé" = some "LOCALHOST" ∧
      Text.bytes "LOCALHOST" = (Text.bytes "LOCALHOSTé").take 9 ∧ OpensLocal "LOCALHOSTé" ∧
      r.locate "LOCALHOSTé" = pure .loopback ∧ r.LocatedByBytes "0.0.0.0é" (pure .any) ∧
      r.LocatedByBytes "é" ⟨.ok .none, [.unresolved "é"]⟩ ∧
      address ≠ .any ∧ IsLookedUp address.text ∧ ¬IsLookedUp (Address.text .any) := by
  intro r address
  obtain ⟨hlocate, -, -, hvalid, -, halike, -⟩ := locate_by_bytes "localhosé"
  obtain ⟨-, hloopback, -, -, hbytes, halike', -⟩ := locate_by_bytes "LOCALHOSTé"
  have hnone : Text.front? 9 "localhosé" = none := by decide
  have hsome : Text.front? 9 "LOCALHOSTé" = some "LOCALHOST" := by decide
  have hopens : OpensLocal "LOCALHOSTé" := halike'.mp ⟨_, hsome, by decide⟩
  have hne : address ≠ .any := by decide
  refine ⟨fun h => ?_, fun h => ?_, (hlocate r _).mp rfl, hsome, hbytes _ hsome, hopens,
    hloopback.mpr hopens r, ((locate_by_bytes "0.0.0.0é").1 r _).mp rfl,
    ((locate_by_bytes "é").1 r _).mp rfl, hne,
    ((locate_by_bytes address.text).2.2.2.2.2.2 address rfl).mpr hne, fun h => ?_⟩
  · obtain ⟨front, hfront⟩ := hvalid.mpr h
    rw [hnone] at hfront
    cases hfront
  · obtain ⟨front, hfront, -⟩ := halike.mpr h
    rw [hnone] at hfront
    cases hfront
  · exact ((locate_by_bytes (Address.text .any)).2.2.2.2.2.2 .any rfl).mp h rfl

end Resolver

end TrafficGraph
