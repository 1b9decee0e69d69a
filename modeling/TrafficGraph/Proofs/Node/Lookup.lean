import TrafficGraph.Node

/-!
# Which hosts are looked up

A look-up may wait for a network, so a node should only cause those it needs. Reading a
peer asks for the address of its host at most, and not even for that when the host is
this one or begins in one of the two ways that are answered at once
(`TrafficGraph.Resolver.asks`). Whatever else a resolver would answer has no influence.

This is a statement about two runs. Two resolvers that agree on the hosts that a request
names (`TrafficGraph.Resolver.AgreeOn`) cannot be told apart by building it: the outcome
is the same, and so is the log. Each part of a reading has its congruence lemma, from the
address of a host up to a request (`TrafficGraph.Request.build_congr`).

`TrafficGraph.Node.build_eq_of_lookup_eq` says what follows for a node: which look-ups
decide what it is, that a node without peers to read depends on none, and that a table
without entries does for a network as long as every host that is asked for is a dotted
address.
-/

namespace TrafficGraph

/-! ### Hosts that are asked for -/

namespace Resolver

/-- The resolver is asked for the address of the host: the host is not this one, and does
not begin in a way that is answered without a look-up. -/
def asks (r : Resolver) (host : String) : Bool :=
  !(r.isOwn host || Text.beginsLike "localhost" host || Text.beginsWith "0.0.0.0" host)

theorem asks_eq_true_iff {r : Resolver} {host : String} :
    r.asks host = true ↔
      r.isOwn host = false ∧ Text.beginsLike "localhost" host = false ∧
        Text.beginsWith "0.0.0.0" host = false := by
  rw [asks, Bool.not_eq_true', Bool.or_eq_false_iff, Bool.or_eq_false_iff, and_assoc]

/-- **Two resolvers agree on hosts**: they take the same of them for this host, and give
the same answer for each that they are asked for. -/
structure AgreeOn (r r' : Resolver) (hosts : List String) : Prop where
  /-- A host is this one for both, or for neither. -/
  isOwn : ∀ host ∈ hosts, r.isOwn host = r'.isOwn host
  /-- A host that is asked for has one address, or none. -/
  lookup : ∀ host ∈ hosts, r.asks host = true → r.lookup host = r'.lookup host

variable {r r' : Resolver} {hosts : List String}

theorem AgreeOn.mono (h : r.AgreeOn r' hosts) {hosts' : List String} (hsub : hosts' ⊆ hosts) :
    r.AgreeOn r' hosts' where
  isOwn host hhost := h.isOwn host (hsub hhost)
  lookup host hhost := h.lookup host (hsub hhost)

/-- There is nothing to disagree on without hosts. -/
theorem AgreeOn.nil (r r' : Resolver) : r.AgreeOn r' [] where
  isOwn _ h := absurd h List.not_mem_nil
  lookup _ h := absurd h List.not_mem_nil

/-- Which host is this one is a matter of its name, so resolvers with one name for it
agree as soon as their look-ups do. -/
theorem AgreeOn.of_ownName_eq (hname : r.ownName = r'.ownName)
    (hlookup : ∀ host ∈ hosts, r.asks host = true → r.lookup host = r'.lookup host) :
    r.AgreeOn r' hosts where
  isOwn host _ := by rw [Resolver.isOwn, Resolver.isOwn, hname]
  lookup := hlookup

/-- **The address of a host** is the same, and so is the warning when there is none. -/
theorem locate_congr (h : r.AgreeOn r' hosts) {host : String} (hmem : host ∈ hosts)
    (hown : r.isOwn host = false) : r.locate host = r'.locate host := by
  rw [locate, locate]
  by_cases hloop : Text.beginsLike "localhost" host
  · rw [if_pos hloop, if_pos hloop]
  · rw [if_neg hloop, if_neg hloop]
    by_cases hany : Text.beginsWith "0.0.0.0" host
    · rw [if_pos hany, if_pos hany]
    · have hasks : r.asks host = true :=
        asks_eq_true_iff.mpr ⟨hown, Bool.eq_false_iff.mpr hloop, Bool.eq_false_iff.mpr hany⟩
      rw [if_neg hany, if_neg hany, h.lookup host hmem hasks]

end Resolver

/-! ### Peers -/

/-- The host a peer names, if the text has a colon to find it by. -/
def Peer.host? (text : String) : Option String := (Text.cut? ':' text).map (·.1)

/-- The hosts that a list of peers names. -/
def Pool.hosts (text : String) : List String := (Text.fields ',' text).filterMap Peer.host?

section Peers

variable {r r' : Resolver} {hosts : List String} (h : r.AgreeOn r' hosts)

include h

/-- **One peer**: its reading depends on the resolver through its host only. -/
theorem Peer.read_congr (attr : String) {text : String}
    (hmem : ∀ host, Peer.host? text = some host → host ∈ hosts) :
    Peer.read attr r text = Peer.read attr r' text := by
  rw [Peer.read, Peer.read]
  rcases hcut : Text.cut? ':' text with _ | ⟨host, portText⟩
  · rfl
  · have hhost : host ∈ hosts := hmem host (by rw [Peer.host?, hcut, Option.map_some])
    change (if r.isOwn host then _ else _) = (if r'.isOwn host then _ else _)
    by_cases hown : r.isOwn host
    · rw [if_pos hown, if_pos (h.isOwn host hhost ▸ hown)]
    · rw [if_neg hown, if_neg (h.isOwn host hhost ▸ hown),
        Resolver.locate_congr h hhost (Bool.eq_false_iff.mpr hown)]

/-- **A list of peers**: the two readings fill the pool with the same peers, log the same
events and end at the same fault. -/
theorem Pool.fillAll_congr (attr : String) {texts : List String}
    (hmem : ∀ host ∈ texts.filterMap Peer.host?, host ∈ hosts) (pool : Pool) :
    fillAll attr r pool texts = fillAll attr r' pool texts := by
  induction texts generalizing pool with
  | nil => rfl
  | cons text texts ih =>
    have hfirst : Peer.read attr r text = Peer.read attr r' text :=
      Peer.read_congr h attr fun host hhost =>
        hmem host (List.mem_filterMap.mpr ⟨text, List.mem_cons_self, hhost⟩)
    have hrest : ∀ pool, fillAll attr r pool texts = fillAll attr r' pool texts :=
      ih fun host hhost => by
        obtain ⟨t, ht, hhost⟩ := List.mem_filterMap.mp hhost
        exact hmem host (List.mem_filterMap.mpr ⟨t, List.mem_cons_of_mem text ht, hhost⟩)
    rw [fillAll, fillAll, hfirst]
    dsimp only
    split
    · rfl
    · rw [hrest]

theorem Pool.read_congr (attr : String) {text : String} (hsub : Pool.hosts text ⊆ hosts) :
    Pool.read attr r text = Pool.read attr r' text := by
  rw [Pool.read, Pool.read, fill, fill, fillAll_congr h attr fun _ hhost => hsub hhost]

end Peers

/-! ### Requests and nodes -/

/-- The hosts that a request names: those of its list of peers, and that of the proxy of a
start. -/
def Request.hosts : Request → List String
  | start _ _ peers socksproxy => Pool.hosts peers ++ (Peer.host? socksproxy).toList
  | transfer _ _ _ peers => Pool.hosts peers
  | ending .. | pause _ | synchronize => []

/-- **A request cannot tell resolvers apart** that agree on the hosts it names: the outcome
and the log are the same. -/
theorem Request.build_congr {r r' : Resolver} (q : Request) (h : r.AgreeOn r' q.hosts) :
    q.build r = q.build r' := by
  rw [build, build]
  -- a resolver is passed on to the readings of peers, and used nowhere else
  cases q with
  | start time serverport peers socksproxy =>
    have hproxy : Start.readProxy r socksproxy = Start.readProxy r' socksproxy := by
      rw [Start.readProxy, Start.readProxy, Peer.read_congr h "socksproxy" fun host hhost =>
        List.mem_append_right _ (Option.mem_toList.mpr hhost)]
    have hpool : Pool.read "peers" r peers = Pool.read "peers" r' peers :=
      Pool.read_congr h "peers" (List.subset_append_left _ _)
    rw [payload, payload, Start.read, Start.read, hproxy, hpool]
  | transfer direction protocol size peers =>
    have hpool : Pool.read "peers" r peers = Pool.read "peers" r' peers :=
      Pool.read_congr h "peers" fun _ => id
    rw [payload, payload, Transfer.read, Transfer.read, Transfer.readPeers,
      Transfer.readPeers, hpool]
  | ending | pause | synchronize => rw [payload, payload]

namespace Node

/-- The hosts a node names, whatever its kind: those of its list of peers, and that of its
proxy. -/
def hosts (n : Node) : List String := Pool.hosts n.peers ++ (Peer.host? n.socksproxy).toList

/-- What is asked for names hosts of the node only. -/
theorem hosts_request_subset (n : Node) (k : Kind) : (n.request k).hosts ⊆ n.hosts := by
  cases k with
  | start => exact List.Subset.refl _
  | transfer => exact List.subset_append_left _ _
  | ending | pause | synchronize => exact List.nil_subset _

/-- A node is the same over resolvers that agree on the hosts of the request of its
kind. -/
theorem build_congr {r r' : Resolver} {n : Node}
    (h : ∀ k, Kind.ofText? n.kind = some k → r.AgreeOn r' (n.request k).hosts) :
    n.build r = n.build r' := by
  rw [build, build]
  rcases hkind : Kind.ofText? n.kind with _ | k
  · exact (Logged.fail_bind _ _).trans (Logged.fail_bind _ _).symm
  · exact (n.request k).build_congr (h k hkind)

/-- A node that is no start, and no transfer with peers of its own, names no host in the
request of its kind. -/
theorem hosts_request_eq_nil {n : Node} (hstart : Kind.ofText? n.kind ≠ some .start)
    (htransfer : Kind.ofText? n.kind = some .transfer → n.peers = "") {k : Kind}
    (hkind : Kind.ofText? n.kind = some k) : (n.request k).hosts = [] := by
  cases k with
  | start => exact absurd hkind hstart
  | transfer =>
    have hpeers : (n.request .transfer).hosts = Pool.hosts n.peers := rfl
    rw [hpeers, htransfer hkind]
    rfl
  | ending | pause | synchronize => rfl

/-- The table without entries and a network agree on dotted addresses, which neither of
them has to look up. -/
theorem agreeOn_empty_system {name : Option String} {network : String → Option Address}
    {hosts : List String}
    (h : ∀ host ∈ hosts, (Resolver.system name network).asks host = true →
      (Address.ofText? host).isSome = true) :
    (HostTable.empty name).resolver.AgreeOn (.system name network) hosts := by
  refine .of_ownName_eq rfl fun host hmem hasks => ?_
  obtain ⟨address, haddress⟩ := Option.isSome_iff_exists.mp (h host hmem hasks)
  change (Address.ofText? host).or _ = (Address.ofText? host).or _
  rw [haddress, Option.some_or, Option.some_or]

/-- **Building a node depends on the look-ups it needs.** Over two resolvers with one name
for this host that agree on the hosts of the node that are asked for, it is the same
action or the same fault, with the same log. A node that is no start, and no transfer with
peers of its own, is the same over any two resolvers. And when each host that is asked for
is a dotted address, the table without entries does for a network. -/
theorem build_eq_of_lookup_eq (n : Node) :
    (∀ r r' : Resolver, r.ownName = r'.ownName →
        (∀ host ∈ n.hosts, r.asks host = true → r.lookup host = r'.lookup host) →
        n.build r = n.build r') ∧
      (Kind.ofText? n.kind ≠ some .start →
        (Kind.ofText? n.kind = some .transfer → n.peers = "") →
        ∀ r r' : Resolver, n.build r = n.build r') ∧
      ∀ (name : String) (network : String → Option Address),
        (∀ host ∈ n.hosts, (Resolver.system (some name) network).asks host = true →
          (Address.ofText? host).isSome = true) →
        n.build (HostTable.empty (some name)).resolver = n.build (.system (some name) network) := by
  refine ⟨fun r r' hname hlookup => ?_, fun hstart htransfer r r' => ?_, fun name network h => ?_⟩
  · have hagree : r.AgreeOn r' n.hosts := .of_ownName_eq hname hlookup
    exact build_congr fun k _ => hagree.mono (n.hosts_request_subset k)
  · refine build_congr fun k hkind => ?_
    rw [hosts_request_eq_nil hstart htransfer hkind]
    exact .nil r r'
  · exact build_congr fun k _ => (agreeOn_empty_system h).mono (n.hosts_request_subset k)

/-- Of the three hosts of this start, one is asked for. A table and a network give it the
same address, and the start is the same, although they know different addresses for the
other two. A transfer without peers of its own does not care for the proxy it names, and
a network that finds nothing does not matter to dotted addresses. -/
theorem build_eq_of_lookup_eq_start :
    let n : Node := ⟨"Start", "1", "80", "me:1,LOCALHOST:2,relay:7", "", "", "", "", ""⟩
    let m : Node := ⟨"transfer", "", "", "", "relay:9", "", "5 kib", "get", "tcp"⟩
    let k : Node := ⟨"Start", "1", "80", "me:1,10.0.0.1:7", "localhost:9", "", "", "", ""⟩
    let table := ((HostTable.empty (some "me")).add "relay" ⟨10, 0, 0, 1⟩).add "me" ⟨10, 0, 0, 2⟩
    let r : Resolver := .system (some "me") fun host =>
      if host = "LOCALHOST" then some ⟨10, 0, 0, 3⟩
      else if host = "relay" then some ⟨10, 0, 0, 1⟩ else none
    let silent : Resolver := .system (some "me") fun _ => none
    (n.build table.resolver = n.build r ∧
        table.resolver.lookup "me" ≠ r.lookup "me" ∧
        table.resolver.lookup "LOCALHOST" ≠ r.lookup "LOCALHOST" ∧
        (n.build r).outcome = .ok ⟨.start ⟨1, 80, none,
          ⟨[⟨.loopback, 2⟩, ⟨⟨10, 0, 0, 1⟩, 7⟩]⟩⟩, none⟩) ∧
      m.build r = m.build silent ∧
      k.build (HostTable.empty (some "me")).resolver = k.build silent := by
  intro n m k table r silent
  obtain ⟨hlookup, -, -⟩ := n.build_eq_of_lookup_eq
  obtain ⟨-, hany, -⟩ := m.build_eq_of_lookup_eq
  obtain ⟨-, -, hdotted⟩ := k.build_eq_of_lookup_eq
  have hagree : ∀ host ∈ n.hosts, table.resolver.asks host = true →
      table.resolver.lookup host = r.lookup host := by
    dsimp only [n, table, r]
    decide
  have hmade : (n.build r).outcome = .ok ⟨.start ⟨1, 80, none,
      ⟨[⟨.loopback, 2⟩, ⟨⟨10, 0, 0, 1⟩, 7⟩]⟩⟩, none⟩ := by
    dsimp only [n, r]
    rfl
  have hme : table.resolver.lookup "me" ≠ r.lookup "me" := by
    dsimp only [table, r]
    decide
  have hloop : table.resolver.lookup "LOCALHOST" ≠ r.lookup "LOCALHOST" := by
    dsimp only [table, r]
    decide
  have hkind : Kind.ofText? m.kind ≠ some .start := by
    dsimp only [m]
    decide
  refine ⟨⟨hlookup table.resolver r rfl hagree, hme, hloop, hmade⟩,
    hany hkind (fun _ => rfl) r silent, hdotted "me" _ ?_⟩
  dsimp only [k]
  decide

end Node

end TrafficGraph
