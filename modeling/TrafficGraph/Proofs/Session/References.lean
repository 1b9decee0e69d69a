import TrafficGraph.Proofs.Session.History

/-!
# How many references a pool has

The session keeps a number of references for every pool, and changes it as actions are
made, copied, dropped and shared. Nothing in a step looks at who holds a pool, so that
the number is right is a theorem: it is the number of actions that hold the pool and of
places in the shared list where it stands (`TrafficGraph.Session.Counted`).

Pools are told apart by their numbers and not by their peers. What makes a number as good
as the pool itself is that it is new when an action is made, and that the actions which
hold it have the same peers.

`TrafficGraph.Session.Accounts` lists what a step does to the numbers of references, and
`TrafficGraph.Session.accounts_step` says that it does so after any steps.
-/

namespace TrafficGraph

/-- The texts name peers of their own: those of a start always do. -/
def Request.NamesPeers : Request → Prop
  | start .. => True
  | transfer _ _ _ peers => peers ≠ ""
  | ending .. | pause _ | synchronize => False

namespace Session

/-! ### Who refers to a pool -/

/-- The number of references to a pool. -/
def referencesTo (s : Session) (pool : Nat) : Nat := (s.references[pool]?).getD 0

/-- The pool that an action holds. -/
def pool? (s : Session) (index : Nat) : Option Nat := (s.held? index).bind Held.pool

/-- The numbers of the actions that hold a pool. -/
def holders (s : Session) (pool : Nat) : List Nat := s.live.filter fun i => s.pool? i == some pool

/-- There is a reference to the pool: an action holds it, or it is shared. -/
def Refers (s : Session) (pool : Nat) : Prop := (∃ i, s.pool? i = some pool) ∨ pool ∈ s.shared

/-- The pool was made by one of the steps: there was a reference to it after some of
them. -/
def Created (r : Resolver) (steps : List Step) (pool : Nat) : Prop :=
  ∃ before later, steps = before ++ later ∧ (empty.after r before).Refers pool

/-- The texts that a step makes an action of. -/
def Step.request? : Step → Option Request
  | .make q => some q
  | .build v =>
    match Node.ofJson v with
    | .ok n => (Kind.ofText? n.kind).map n.request
    | .error _ => none
  | _ => none

/-- **The numbers of references are right**, and so are the numbers of the pools. -/
structure Counted (s : Session) : Prop where
  /-- There are as many references as actions hold the pool and places share it. -/
  referencesTo_eq : ∀ pool, s.referencesTo pool = (s.holders pool).length + s.shared.count pool
  /-- An action has a pool if it has peers. -/
  isSome_pool : ∀ i h, s.held? i = some h → h.pool.isSome = h.action.peers?.isSome
  /-- Actions with the same pool have the same peers. -/
  peers?_eq : ∀ i j h h', s.held? i = some h → s.held? j = some h' → h.pool = h'.pool →
    h.action.peers? = h'.action.peers?

/-! ### Counting -/

theorem map_held?_range (s : Session) : (List.range s.slots.length).map s.held? = s.slots := by
  refine List.ext_getElem? fun i => ?_
  rw [List.getElem?_map]
  by_cases hi : i < s.slots.length
  · rw [List.getElem?_range hi, Option.map_some, held?, List.getElem?_eq_getElem hi]
    rfl
  · rw [List.getElem?_eq_none (by simpa using hi), List.getElem?_eq_none (Nat.not_lt.mp hi)]
    rfl

/-- The place holds an action with the given pool. -/
def holds (pool : Nat) (x : Option Held) : Bool := x.bind Held.pool == some pool

/-- The actions that hold a pool, counted by their places. -/
theorem length_holders (s : Session) (pool : Nat) :
    (s.holders pool).length = s.slots.countP (holds pool) := by
  have hplaces : s.slots.countP (holds pool) =
      (List.range s.slots.length).countP (holds pool ∘ s.held?) := by
    rw [← List.countP_map, map_held?_range]
  rw [hplaces, holders, live, List.filter_filter, ← List.countP_eq_length_filter]
  refine List.countP_congr fun i _ => ?_
  rw [Function.comp_apply, holds, pool?]
  cases s.held? i <;> simp

section Slots

variable {s : Session} {h : Held} {pool : Nat} {slots : List (Option Held)}
  {shared references : List Nat}

theorem holds_some : holds pool (some h) = true ↔ h.pool = some pool := by
  rw [holds, Option.bind_some, beq_iff_eq]

/-- A new action adds one to those that hold its pool. -/
theorem length_holders_append (hs : slots = s.slots ++ [some h]) :
    (holders ⟨slots, shared, references⟩ pool).length =
      (s.holders pool).length + if h.pool = some pool then 1 else 0 := by
  rw [length_holders, length_holders, hs, List.countP_append, List.countP_singleton]
  simp only [holds_some]

/-- An action that takes the place of one with the same pool does not change who holds
pools. -/
theorem length_holders_set {h' : Held} {i : Nat} (hh : s.held? i = some h)
    (hpool : h'.pool = h.pool) :
    (holders ⟨s.slots.set i (some h'), shared, references⟩ pool).length =
      (s.holders pool).length := by
  have hi := lt_length_of_held? hh
  have hslot : s.slots[i] = some h := (List.getElem_eq_iff hi).mpr (getElem?_of_held? hh)
  have hle := List.boole_getElem_le_countP (p := holds pool) hi
  rw [length_holders, length_holders, List.countP_set hi]
  simp only [hslot, holds_some, hpool] at hle ⊢
  omega

/-- An empty place takes one from those that hold a pool. -/
theorem length_holders_clear {i : Nat} (hh : s.held? i = some h) :
    (holders ⟨s.slots.set i none, shared, references⟩ pool).length +
        (if h.pool = some pool then 1 else 0) = (s.holders pool).length := by
  have hi := lt_length_of_held? hh
  have hslot : s.slots[i] = some h := (List.getElem_eq_iff hi).mpr (getElem?_of_held? hh)
  have hle := List.boole_getElem_le_countP (p := holds pool) hi
  have hnone : holds pool none = false := rfl
  rw [length_holders, length_holders, List.countP_set hi]
  simp only [hslot, holds_some, hnone] at hle ⊢
  simp only [Bool.false_eq_true, if_false]
  omega

/-- The references after those to one pool have changed. -/
theorem referencesTo_recount {change : Nat → Nat} {p : Option Nat}
    (hp : ∀ q, p = some q → q < s.references.length) :
    referencesTo ⟨slots, shared, recount s.references change p⟩ pool =
      if p = some pool then change (s.referencesTo pool) else s.referencesTo pool := by
  rcases p with _ | q
  · rfl
  · rw [referencesTo, referencesTo, recount, List.getElem?_modify]
    by_cases hne : q = pool
    · subst hne
      rw [if_pos rfl, List.getElem?_eq_getElem (hp q rfl)]
      simp
    · simp [hne]

theorem referencesTo_insert (x : Action) :
    (s.insert x).referencesTo pool =
      s.referencesTo pool + if s.newPool? x = some pool then 1 else 0 := by
  rw [referencesTo, referencesTo, references_insert, newPool?]
  rcases x.peers? with _ | peers
  · simp
  · rw [Option.map_some, Option.toList_some, List.map_singleton]
    rcases Nat.lt_trichotomy pool s.references.length with hlt | heq | hgt
    · rw [List.getElem?_append_left hlt, if_neg (by simp; omega), Nat.add_zero]
    · subst heq
      simp
    · rw [List.getElem?_eq_none (by simp; omega), List.getElem?_eq_none (by omega),
        if_neg (by simp; omega)]
      rfl

end Slots

/-! ### Counts stay right -/

theorem mem_holders {s : Session} {i pool : Nat} : i ∈ s.holders pool ↔ s.pool? i = some pool := by
  rw [holders, List.mem_filter, beq_iff_eq]
  refine ⟨And.right, fun hi => ⟨?_, hi⟩⟩
  obtain ⟨h, hh, -⟩ := Option.bind_eq_some_iff.mp hi
  rw [live, List.mem_filter, List.mem_range, hh]
  exact ⟨lt_length_of_held? hh, rfl⟩

/-- A pool that is referred to has a number. -/
theorem Counted.lt_of_refers {s : Session} (hs : s.Counted) {pool : Nat} (hp : s.Refers pool) :
    pool < s.references.length := by
  refine Nat.lt_of_not_le fun hle => ?_
  have hzero : s.referencesTo pool = 0 := by
    rw [referencesTo, List.getElem?_eq_none hle]
    rfl
  have hcount := hs.referencesTo_eq pool
  rcases hp with ⟨i, hi⟩ | hshared
  · have hpos := List.length_pos_of_mem (mem_holders.mpr hi)
    omega
  · have hpos := List.count_pos_iff.mpr hshared
    omega

theorem Counted.lt_of_held? {s : Session} (hs : s.Counted) {i : Nat} {h : Held}
    (hh : s.held? i = some h) (pool : Nat) (hp : h.pool = some pool) :
    pool < s.references.length := by
  refine hs.lt_of_refers (Or.inl ⟨i, ?_⟩)
  rw [pool?, hh]
  exact hp

theorem counted_empty : empty.Counted where
  referencesTo_eq _ := rfl
  isSome_pool _ _ hh := by cases hh
  peers?_eq _ _ _ _ hh := by cases hh

/-- Where an action comes from in one step: it has the pool and the payload of one that
was there before, or it is new and so is its pool. -/
theorem held?_source {r : Resolver} {s s' : Session} {x : Step} {a : Answer}
    (he : Effect r s x s' a) {i : Nat} {h : Held} (hh : s'.held? i = some h) :
    (∃ j h₀, s.held? j = some h₀ ∧ h.pool = h₀.pool ∧ h.action.payload = h₀.action.payload) ∨
      i = s.slots.length ∧ h.pool = s.newPool? h.action := by
  by_cases hi : i < s.slots.length
  · rw [held?_effect he hi] at hh
    obtain ⟨h₀, hh₀, htreat⟩ := Option.bind_eq_some_iff.mp hh
    rw [Step.eq_of_treat htreat]
    exact Or.inl ⟨i, h₀, hh₀, rfl, rfl⟩
  · have hgiven : a.given? = some i ∧ i = s.slots.length := by
      have hlength := length_slots_effect he
      have hlt := lt_length_of_held? hh
      split at hlength
      · rename_i k hk
        obtain rfl : k = i := by omega
        exact ⟨hk, hlength.1⟩
      · omega
    rcases held?_of_given he hgiven.1 with ⟨_, b, -, -, -, hs'⟩ | ⟨j, h₀, -, -, hs, hs'⟩
    · obtain rfl := Option.some.inj (hh.symm.trans hs')
      exact Or.inr ⟨hgiven.2, rfl⟩
    · obtain rfl := Option.some.inj (hh.symm.trans hs')
      exact Or.inl ⟨j, h, hs, rfl, rfl⟩

/-- The pool of a new action is no pool that was there, so what is there can have it only
where both have none. -/
theorem Counted.peers?_eq_of_newPool? {s : Session} (hs : s.Counted) {i : Nat} {h : Held}
    {x : Action} (hh : s.held? i = some h) (hpool : h.pool = s.newPool? x) :
    h.action.peers? = x.peers? := by
  have hsome := hs.isSome_pool i h hh
  rw [newPool?] at hpool
  rcases hx : x.peers? with _ | peers
  · rw [hx] at hpool
    rw [hpool] at hsome
    exact Option.not_isSome_iff_eq_none.mp (by rw [← hsome]; exact Bool.false_ne_true)
  · rw [hx] at hpool
    exact absurd (hs.lt_of_held? hh _ hpool) (Nat.lt_irrefl _)

/-- **One step keeps the numbers of references right.** -/
theorem Counted.effect {r : Resolver} {s s' : Session} {x : Step} {a : Answer} (hs : s.Counted)
    (he : Effect r s x s' a) : s'.Counted where
  referencesTo_eq pool := by
    have hcount := hs.referencesTo_eq pool
    cases he with
    | made =>
      -- the one reference to a new pool is that of the action
      rw [referencesTo_insert, shared_insert, length_holders_append (slots_insert s _), hcount]
      exact Nat.add_right_comm ..
    | @keyed i key h hh =>
      have hset : (holders ⟨s.slots.set i (some ⟨h.action.withKey key, h.pool⟩), s.shared,
          s.references⟩ pool).length = (s.holders pool).length := length_holders_set hh rfl
      rw [hset]
      exact hcount
    | copied hh =>
      rw [referencesTo_recount (hs.lt_of_held? hh), length_holders_append rfl]
      dsimp only
      split <;> omega
    | @dropped i h hh =>
      have hclear : (holders ⟨s.slots.set i none, s.shared,
          recount s.references (· - 1) h.pool⟩ pool).length +
            (if h.pool = some pool then 1 else 0) = (s.holders pool).length :=
        length_holders_clear hh
      rw [referencesTo_recount (hs.lt_of_held? hh)]
      dsimp only
      by_cases hp : h.pool = some pool
      · rw [if_pos hp] at hclear ⊢
        omega
      · rw [if_neg hp] at hclear ⊢
        omega
    | @shared i p h hh hp =>
      change _ = (s.holders pool).length + (s.shared ++ [p]).count pool
      rw [referencesTo_recount (hs.lt_of_held? hh), List.count_append, List.count_singleton, hp]
      simp only [Option.some.injEq, beq_iff_eq]
      split <;> omega
    | faulty | misshapen | unshared | asked | missing => exact hcount
  isSome_pool i h hh := by
    rcases held?_source he hh with ⟨j, h₀, hh₀, hpool, hpayload⟩ | ⟨-, hpool⟩
    · rw [hpool, Action.peers?, hpayload]
      exact hs.isSome_pool j h₀ hh₀
    · rw [hpool, newPool?, Option.isSome_map]
  peers?_eq i j h h' hh hh' hsame := by
    rcases held?_source he hh with ⟨k, h₀, hh₀, hpool, hpayload⟩ | ⟨hi, hpool⟩ <;>
      rcases held?_source he hh' with ⟨k', h₁, hh₁, hpool', hpayload'⟩ | ⟨hj, hpool'⟩
    · rw [Action.peers?, Action.peers?, hpayload, hpayload']
      exact hs.peers?_eq k k' h₀ h₁ hh₀ hh₁ (hpool.symm.trans (hsame.trans hpool'))
    · -- an old action with the pool of a new one: both have none, as new numbers are free
      rw [Action.peers?, hpayload]
      exact hs.peers?_eq_of_newPool? hh₀ (hpool.symm.trans (hsame.trans hpool'))
    · rw [Action.peers?, Action.peers?, hpayload']
      exact (hs.peers?_eq_of_newPool? hh₁ (hpool'.symm.trans (hsame.symm.trans hpool))).symm
    · -- one step makes one action
      subst hi hj
      rw [Option.some.inj (hh.symm.trans hh')]

/-! ### What steps do to the counts -/

theorem counted_after (r : Resolver) (steps : List Step) : (empty.after r steps).Counted :=
  after_induction (fun s x hs => hs.effect (effect_step r s x)) counted_empty steps

theorem length_recount (references : List Nat) (change : Nat → Nat) (p : Option Nat) :
    (recount references change p).length = references.length := by
  cases p with
  | none => rfl
  | some => exact List.length_modify ..

/-- No number of a pool is taken back. -/
theorem length_references_le {r : Resolver} {s s' : Session} {x : Step} {a : Answer}
    (he : Effect r s x s' a) : s.references.length ≤ s'.references.length := by
  cases he with
  | made =>
    rw [references_insert, List.length_append]
    exact Nat.le_add_right _ _
  | copied | dropped | shared => exact Nat.le_of_eq (length_recount _ _ _).symm
  | keyed | faulty | misshapen | unshared | asked | missing => exact Nat.le_refl _

/-- A pool that was made has a number that is not given again. -/
theorem Created.lt {r : Resolver} {steps : List Step} {pool : Nat} (hp : Created r steps pool) :
    pool < (empty.after r steps).references.length := by
  obtain ⟨before, later, rfl, hp⟩ := hp
  rw [after_append]
  exact after_induction (motive := fun s => pool < s.references.length)
    (fun s x hs => Nat.lt_of_lt_of_le hs (length_references_le (effect_step r s x)))
    ((counted_after r before).lt_of_refers hp) later

/-- An action that is made has peers if its texts name some. -/
theorem isSome_peers?_iff {r : Resolver} {q : Request} {p : Payload}
    (h : (q.payload r).outcome = .ok p) : p.peers?.isSome ↔ q.NamesPeers := by
  cases q with
  | start =>
    obtain ⟨s, -, hp⟩ := Logged.outcome_bind_eq_ok_iff.mp h
    cases hp
    exact ⟨fun _ => trivial, fun _ => rfl⟩
  | ending | pause =>
    obtain ⟨_, -, hp⟩ := Logged.outcome_bind_eq_ok_iff.mp h
    cases hp
    exact ⟨nofun, nofun⟩
  | synchronize =>
    cases h
    exact ⟨nofun, nofun⟩
  | transfer direction protocol size peers =>
    obtain ⟨t, ht, hp⟩ := Logged.outcome_bind_eq_ok_iff.mp h
    cases hp
    obtain ⟨-, -, -, hpool⟩ := Transfer.read_eq_ok_iff.mp ht
    rw [Transfer.readPeers] at hpool
    change t.peers.isSome ↔ peers ≠ ""
    split at hpool
    · rw [← Except.ok.inj hpool]
      exact ⟨nofun, fun hne => absurd ‹_› hne⟩
    · obtain ⟨pool, -, hpure⟩ := Logged.outcome_bind_eq_ok_iff.mp hpool
      rw [← Except.ok.inj hpure]
      exact ⟨fun _ => ‹_›, fun _ => rfl⟩

theorem eq_build_of_request? {r : Resolver} {x : Step} {q : Request} {y : Logged Action}
    (hq : x.request? = some q) (hy : x.made? r = some y) : y = q.build r := by
  cases x with
  | make q' =>
    cases hq
    exact (Option.some.inj hy).symm
  | build v =>
    rw [Step.request?] at hq
    rw [Step.made?] at hy
    split at hq
    · rename_i n hn
      rw [hn] at hy
      obtain ⟨k, hk, rfl⟩ := Option.map_eq_some_iff.mp hq
      rw [← Option.some.inj hy, Node.build, hk]
      rfl
    · cases hq
  | setKey | view | copy | drop | compare | samePool | share => cases hq

section Counts

variable {r : Resolver} {s s' : Session} {x : Step} {a : Answer} {i pool : Nat}

/-- A copy and a share are one reference more, to the pool of the action they are about. -/
theorem Counted.referencesTo_gained (hs : s.Counted) (he : Effect r s x s' a)
    (hx : x = .copy i ∨ x = .share i) (hp : s.pool? i = some pool) (p : Nat) :
    s'.referencesTo p = s.referencesTo p + if p = pool then 1 else 0 := by
  obtain ⟨h, hh, hpool⟩ := Option.bind_eq_some_iff.mp hp
  have hrecount : ∀ slots shared,
      referencesTo ⟨slots, shared, recount s.references (· + 1) h.pool⟩ p =
        s.referencesTo p + if p = pool then 1 else 0 := by
    intro slots shared
    rw [referencesTo_recount (hs.lt_of_held? hh), hpool]
    simp only [Option.some.injEq, eq_comm (a := pool)]
    split <;> rfl
  rcases hx with rfl | rfl
  · cases he with
    | copied hh' =>
      obtain rfl := Option.some.inj (hh.symm.trans hh')
      exact hrecount _ _
    | missing hmem hnone =>
      rw [List.mem_singleton.mp hmem, hh] at hnone
      cases hnone
    | made hx | faulty hx | asked hx => cases hx
  · cases he with
    | shared hh' =>
      obtain rfl := Option.some.inj (hh.symm.trans hh')
      exact hrecount _ _
    | unshared hh' hnone =>
      obtain rfl := Option.some.inj (hh.symm.trans hh')
      cases hpool.symm.trans hnone
    | missing hmem hnone =>
      rw [List.mem_singleton.mp hmem, hh] at hnone
      cases hnone
    | made hx | faulty hx | asked hx => cases hx

/-- A drop is one reference less, to the pool of the action that is dropped. -/
theorem Counted.referencesTo_lost (hs : s.Counted) (he : Effect r s (.drop i) s' a)
    (hp : s.pool? i = some pool) (p : Nat) :
    s'.referencesTo p + (if p = pool then 1 else 0) = s.referencesTo p := by
  obtain ⟨h, hh, hpool⟩ := Option.bind_eq_some_iff.mp hp
  cases he with
  | dropped hh' =>
    obtain rfl := Option.some.inj (hh.symm.trans hh')
    rw [referencesTo_recount (hs.lt_of_held? hh), hpool]
    by_cases hne : p = pool
    · -- there is a reference to take: the one of this action
      have hpos := List.length_pos_of_mem (mem_holders.mpr hp)
      have hcount := hs.referencesTo_eq pool
      subst hne
      rw [if_pos rfl, if_pos rfl]
      omega
    · rw [if_neg (by simpa using Ne.symm hne), if_neg hne]
      rfl
  | missing hmem hnone =>
    rw [List.mem_singleton.mp hmem, hh] at hnone
    cases hnone
  | made hx | faulty hx | asked hx => cases hx

/-- Every other step leaves the references to the pools that there are. -/
theorem referencesTo_kept (he : Effect r s x s' a)
    (hx : ∀ i, x = .copy i ∨ x = .share i ∨ x = .drop i → s.pool? i = none)
    (hp : pool < s.references.length) : s'.referencesTo pool = s.referencesTo pool := by
  -- recounting nothing changes nothing
  have hrecount : ∀ {i h change slots shared}, s.held? i = some h → s.pool? i = none →
      referencesTo ⟨slots, shared, recount s.references change h.pool⟩ pool =
        s.referencesTo pool := by
    intro i h change slots shared hh hnone
    rw [pool?, hh, Option.bind_some] at hnone
    rw [hnone]
    rfl
  cases he with
  | made =>
    rw [referencesTo_insert, newPool?, if_neg, Nat.add_zero]
    intro hnew
    obtain ⟨_, -, hlength⟩ := Option.map_eq_some_iff.mp hnew
    omega
  | copied hh => exact hrecount hh (hx _ (Or.inl rfl))
  | shared hh => exact hrecount hh (hx _ (Or.inr (Or.inl rfl)))
  | dropped hh => exact hrecount hh (hx _ (Or.inr (Or.inr rfl)))
  | keyed | faulty | misshapen | unshared | asked | missing => rfl

/-- The pool of an action that is made of texts with peers has the next number. -/
theorem pool?_of_made {q : Request} {b : Action} (he : Effect r s x s' (.made i b))
    (hq : x.request? = some q) (hpeers : q.NamesPeers) :
    s'.pool? i = some s.references.length := by
  rcases held?_of_given he rfl with ⟨y, c, hy, hc, hb, hs'⟩ | ⟨_, _, -, hcopied, -⟩
  · obtain rfl := eq_build_of_request? hq hy
    have hsome := (isSome_peers?_iff (Request.build_eq_ok_iff.mp hc).1).mpr hpeers
    obtain ⟨peers, hpeers⟩ := Option.isSome_iff_exists.mp hsome
    rw [pool?, hs', Option.bind_some, newPool?, Action.peers?, hpeers]
    rfl
  · cases hcopied

end Counts

/-- **What a step does to the numbers of references**, by the pools that were made before,
the session it is done in, and its reply. -/
structure Accounts (created : Nat → Prop) (s : Session) (x : Step) (t : Reply) : Prop where
  /-- The number of references to a shared pool is that of the actions that hold it and of
  its places in the shared list. -/
  count_eq : ∀ pool ∈ s.shared,
    s.referencesTo pool = (s.holders pool).length + s.shared.count pool
  /-- An action has a pool if it has peers, and which pool it has decides the peers. -/
  pools : ∀ i j h h', s.held? i = some h → s.held? j = some h' →
    h.pool.isSome = h.action.peers?.isSome ∧
      (h.pool = h'.pool → h.action.peers? = h'.action.peers?)
  /-- An action that is made of texts that name peers has a pool of its own. -/
  made : ∀ q i a, x.request? = some q → q.NamesPeers → t.answer = .made i a →
    ∃ pool, t.session.pool? i = some pool ∧ ¬created pool
  /-- Copying an action, or sharing its pool, is one reference more to this pool. -/
  gained : ∀ i pool, x = .copy i ∨ x = .share i → s.pool? i = some pool →
    ∀ p, t.session.referencesTo p = s.referencesTo p + if p = pool then 1 else 0
  /-- Dropping an action is one reference less to its pool. -/
  lost : ∀ i pool, x = .drop i → s.pool? i = some pool →
    ∀ p, t.session.referencesTo p + (if p = pool then 1 else 0) = s.referencesTo p
  /-- Every other step leaves the references to the pools that there are. -/
  kept : (∀ i, x = .copy i ∨ x = .share i ∨ x = .drop i → s.pool? i = none) →
    ∀ pool, created pool → t.session.referencesTo pool = s.referencesTo pool
  /-- So does every step that was not possible. -/
  fault : t.answer.IsFault → ∀ pool, t.session.referencesTo pool = s.referencesTo pool

/-- **Pools are accounted for.** After any steps, over any resolver, the number of
references to a shared pool is right, and every further step does to the numbers what
`TrafficGraph.Session.Accounts` says. -/
theorem accounts_step (r : Resolver) (steps : List Step) (x : Step) :
    Accounts (Created r steps) (empty.after r steps) x ((empty.after r steps).step r x) where
  count_eq pool _ := (counted_after r steps).referencesTo_eq pool
  pools i j h h' hh hh' :=
    ⟨(counted_after r steps).isSome_pool i h hh,
      (counted_after r steps).peers?_eq i j h h' hh hh'⟩
  made q i a hq hpeers hanswer := by
    have he := effect_step r (empty.after r steps) x
    rw [hanswer] at he
    exact ⟨_, pool?_of_made he hq hpeers, fun hc => Nat.lt_irrefl _ hc.lt⟩
  gained _ _ hx hp p := (counted_after r steps).referencesTo_gained (effect_step r _ x) hx hp p
  lost i pool hx hp p := by
    subst hx
    exact (counted_after r steps).referencesTo_lost (effect_step r _ _) hp p
  kept hx _ hp := referencesTo_kept (effect_step r _ x) hx hp.lt
  fault ha _ := by rw [eq_of_isFault (effect_step r _ x) ha]

/-- Two starts with equal peers have pools of their own, and a transfer has one without
peers. The first start is copied, shared and dropped, so its pool has two references, of
which its copy is one. -/
theorem accounts_step_outlived :
    let r := ((HostTable.empty (some "me")).add "relay" ⟨10, 0, 0, 1⟩).resolver
    let start : Request := .start "1" "80" "relay:7,me:9" ""
    let steps : List Step :=
      [.make start, .make start, .make (.transfer "get" "udp" "1 kib" "ME:7"),
        .make (.start "1" "80" "relay:7,void:7" ""), .copy 0, .share 0, .drop 0]
    let s := empty.after r steps
    let s' := (s.step r (.drop 3)).session
    s.live = [1, 2, 3] ∧ [1, 2, 3].map s.pool? = [some 1, some 2, some 0] ∧
      s.sharedReferences = [2] ∧ s'.referencesTo 0 + 1 = s.referencesTo 0 ∧
      s'.referencesTo 1 = s.referencesTo 1 := by
  intro r start steps s s'
  have hlive : s.live = [1, 2, 3] := by
    dsimp only [s, steps, start, r]
    rfl
  have hpools : [1, 2, 3].map s.pool? = [some 1, some 2, some 0] := by
    dsimp only [s, steps, start, r]
    rfl
  have hshared : s.sharedReferences = [2] := by
    dsimp only [s, steps, start, r]
    rfl
  have hpool : s.pool? 3 = some 0 := by
    dsimp only [s, steps, start, r]
    rfl
  have hlost := (accounts_step r steps (.drop 3)).lost 3 0 rfl hpool
  have hown := hlost 0
  have hother := hlost 1
  rw [if_pos rfl] at hown
  rw [if_neg (by decide), Nat.add_zero] at hother
  exact ⟨hlive, hpools, hshared, hown, hother⟩

end Session

end TrafficGraph
