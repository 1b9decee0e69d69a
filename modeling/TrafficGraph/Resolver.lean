import TrafficGraph.Address
import TrafficGraph.Text.Letters

/-!
# Resolvers

Reading a peer needs two facts about the network: the name of this host, which
keeps a node out of its own pools, and the address of a named host. A
`TrafficGraph.Resolver` is these two facts; everything that reads peers takes one.

* `TrafficGraph.HostTable.resolver` answers from a table of names;
* `TrafficGraph.Resolver.system` asks a network.

Both answer the dotted form of an address with that address, whatever the table
or the network says.
-/

namespace TrafficGraph

/-- What reading a peer needs to know about the network. -/
structure Resolver where
  /-- The name of this host, if it is known. -/
  ownName : Option String
  /-- The address of a host, if it has one. -/
  lookup : String → Option Address

namespace Resolver

/-- The name is that of this host, up to letter case. -/
def isOwn (r : Resolver) (host : String) : Bool :=
  match r.ownName with
  | some name => Text.alike name host
  | none => false

/-- The name of this host in what the system answers when it is asked for it: there is one if the
bytes are a text and not empty. -/
def nameOf? (bytes : ByteArray) : Option String := (String.fromUTF8? bytes).filter (· != "")

/-- The resolver that knows dotted addresses by itself and asks a network for
every other name. -/
def system (ownName : Option String) (network : String → Option Address) : Resolver where
  ownName := ownName
  lookup host := (Address.ofText? host).or (network host)

end Resolver

/-- **A table of hosts**, and the name of this one. The hosts are kept by their names in lower
case, and a name has one address. -/
@[ext] structure HostTable where
  /-- The name of this host, if it is known. -/
  ownName : Option String
  /-- Names with their addresses. -/
  entries : List (String × Address)
  /-- The names are in lower case. -/
  lower_of_mem : ∀ e ∈ entries, Text.lower e.1 = e.1
  /-- No name is there twice. -/
  nodup_names : (entries.map Prod.fst).Nodup

namespace HostTable

/-- The table without entries. -/
def empty (ownName : Option String) : HostTable := ⟨ownName, [], nofun, .nil⟩

/-- The table with one more host, which is entered under its name in lower case. An earlier entry
under that name is given up. -/
def add (t : HostTable) (name : String) (address : Address) : HostTable where
  ownName := t.ownName
  entries := (Text.lower name, address) :: t.entries.filter fun e => e.1 != Text.lower name
  lower_of_mem := by
    refine List.forall_mem_cons.mpr ⟨Text.lower_lower name, fun e he => ?_⟩
    exact t.lower_of_mem e (List.mem_filter.mp he).1
  nodup_names := by
    refine List.nodup_cons.mpr ⟨fun h => ?_, t.nodup_names.sublist (List.filter_sublist.map _)⟩
    obtain ⟨e, he, hname⟩ := List.mem_map.mp h
    exact bne_iff_ne.mp (List.mem_filter.mp he).2 hname

/-- The table of the given hosts, the last one entered last. -/
def ofHosts (ownName : Option String) (hosts : List (String × Address)) : HostTable :=
  hosts.foldl (fun t h => t.add h.1 h.2) (empty ownName)

/-- The address under a name, in any letter case. -/
def find? (t : HostTable) (name : String) : Option Address := t.entries.lookup (Text.lower name)

/-- The table as a resolver: dotted addresses first, then the entries. -/
def resolver (t : HostTable) : Resolver where
  ownName := t.ownName
  lookup host := (Address.ofText? host).or (t.find? host)

/-- Entries of another name are not in the way of a look-up. -/
theorem lookup_filter_ne {name other : String} (h : name ≠ other)
    (entries : List (String × Address)) :
    (entries.filter fun e => e.1 != other).lookup name = entries.lookup name := by
  induction entries with
  | nil => rfl
  | cons e entries ih =>
    rw [List.filter_cons, List.lookup_cons]
    by_cases he : e.1 = other
    · have hne : (name == e.1) = false := beq_false_of_ne (he ▸ h)
      rw [if_neg (by simp [he]), ih, hne]
    · rw [if_pos (bne_iff_ne.mpr he), List.lookup_cons, ih]

/-- **The latest entry wins**, and no other name is affected. -/
theorem find?_add (t : HostTable) (name host : String) (address : Address) :
    (t.add name address).find? host =
      if Text.alike name host then some address else t.find? host := by
  rw [find?, find?, add, List.lookup_cons]
  by_cases h : Text.lower name = Text.lower host
  · rw [if_pos (Text.alike_iff.mpr h), h, beq_self_eq_true]
  · rw [if_neg (mt Text.alike_iff.mp h), beq_false_of_ne (Ne.symm h)]
    exact lookup_filter_ne (Ne.symm h) t.entries

end HostTable

end TrafficGraph
