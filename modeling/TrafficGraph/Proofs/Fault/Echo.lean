import TrafficGraph.Fault

/-!
# What the message of a fault repeats

The message of a fault is made for somebody who has to find the place that it is about, so it
repeats texts: the attribute, the text that was found in it, and the part of it that is to blame, as
far as there is one. Each stands in quotation marks between pieces that are fixed. This module lists
the texts (`TrafficGraph.Fault.echoed`) and says that they are there
(`TrafficGraph.Fault.names_of_mem_echoed`), whatever they hold – marks included.
-/

namespace TrafficGraph

namespace Fault

/-- **The message names a text**, in quotation marks. -/
def Names (f : Fault) (text : String) : Prop :=
  ∃ front back, f.message = front ++ ("'" ++ text ++ "'" ++ back)

/-- The texts that a message repeats, in the order in which it does. -/
def echoed : Fault → List String
  | missing _ attr => [attr]
  | serverPort text => [text, "serverport"]
  | noUsablePeers peers => ["peers", peers]
  | peerShape attr => [attr]
  | peerPort peer attr | peerHost peer attr => [peer, attr]
  | sizeDigit found text attr => [toString found, text, attr]
  | sizeRange text attr => [text, attr]
  | sizeUnit unit text attr => [unit, text, attr]
  | notBoolean attr => [attr]
  | unknownWord value attr => [value, attr]
  | unknownKind kind => [kind]

/-! ### Messages in pieces -/

/-- Pieces, each with a text in quotation marks behind it, and a rest at the end. -/
def quoting (rest : String) : List (String × String) → String
  | [] => rest
  | (piece, text) :: pieces => piece ++ ("'" ++ text ++ "'" ++ quoting rest pieces)

theorem exists_quoting_eq (rest : String) {pieces : List (String × String)} {text : String}
    (h : text ∈ pieces.map Prod.snd) :
    ∃ front back, quoting rest pieces = front ++ ("'" ++ text ++ "'" ++ back) := by
  induction pieces with
  | nil => cases h
  | cons p pieces ih =>
    obtain ⟨piece, text'⟩ := p
    rcases List.mem_cons.mp h with rfl | h
    · exact ⟨piece, _, rfl⟩
    · obtain ⟨front, back, he⟩ := ih h
      refine ⟨piece ++ ("'" ++ text' ++ "'" ++ front), back, ?_⟩
      rw [quoting, he]
      simp only [String.append_assoc]

theorem toString_text (s : String) : toString s = s := rfl

/-- **A message is pieces with the texts that it repeats.** -/
theorem message_eq_quoting (f : Fault) :
    ∃ pieces rest, f.message = quoting rest pieces ∧ pieces.map Prod.snd = f.echoed := by
  -- a mark ends one piece of the message, and another begins the next
  have hfor : "' for attribute '" = "'" ++ (" for attribute " ++ "'") := by rfl
  have hbytes : "' in byte string '" = "'" ++ (" in byte string " ++ "'") := by rfl
  have hpeer : "invalid peer '" = "invalid peer " ++ "'" := by rfl
  have hcomma : "', " = "'" ++ ", " := by rfl
  unfold message
  cases f with
  | missing action attr =>
    have hattr : " action missing required attribute '" =
      " action missing required attribute " ++ "'" := by rfl
    refine ⟨[(action.name ++ " action missing required attribute ", attr)], "", ?_, rfl⟩
    simp only [quoting, hattr, toString_text, String.append_assoc, String.append_empty]
  | serverPort text =>
    have htext : "invalid value '" = "invalid value " ++ "'" := by rfl
    have hattr : "' for start action attribute 'serverport', " = "'" ++
      (" for start action attribute " ++ ("'" ++ ("serverport" ++ ("'" ++ ", ")))) := by rfl
    refine ⟨[("invalid value ", text), (" for start action attribute ", "serverport")],
      ", " ++ "expected port number between 1 and 65535", ?_, rfl⟩
    simp only [quoting, htext, hattr, toString_text, String.append_assoc]
  | noUsablePeers peers =>
    have hattr : "start action attribute 'peers' value '" =
      "start action attribute " ++ ("'" ++ ("peers" ++ ("'" ++ (" value " ++ "'")))) := by rfl
    have hpeers : "' contains no usable peers, " = "'" ++ " contains no usable peers, " := by rfl
    refine ⟨[("start action attribute ", "peers"), (" value ", peers)],
      " contains no usable peers, " ++
        "expected at least one 'hostname:port' other than this host", ?_, rfl⟩
    simp only [quoting, hattr, hpeers, toString_text, String.append_assoc]
  | peerShape attr =>
    have hattr : "expected peer syntax 'hostname:port' for attribute '" =
      "expected peer syntax 'hostname:port' for attribute " ++ "'" := by rfl
    refine ⟨[("expected peer syntax 'hostname:port' for attribute ", attr)], "", ?_, rfl⟩
    simp only [quoting, hattr, toString_text, String.append_assoc, String.append_empty]
  | peerPort peer attr =>
    have hattr : "' for port part of attribute '" =
      "'" ++ (" for port part of attribute " ++ "'") := by rfl
    refine ⟨[("invalid peer ", peer), (" for port part of attribute ", attr)],
      ", " ++ "expected 16 bit unsigned integer", ?_, rfl⟩
    simp only [quoting, hpeer, hattr, hcomma, toString_text, String.append_assoc]
  | peerHost peer attr =>
    have hattr : "' for host part of attribute '" =
      "'" ++ (" for host part of attribute " ++ "'") := by rfl
    refine ⟨[("invalid peer ", peer), (" for host part of attribute ", attr)],
      ", " ++ "expected 'localhost', '127.0.0.1', or valid node hostname", ?_, rfl⟩
    simp only [quoting, hpeer, hattr, hcomma, toString_text, String.append_assoc]
  | sizeDigit found text attr =>
    have hfound : "non-digit byte '" = "non-digit byte " ++ "'" := by rfl
    refine ⟨[("non-digit byte ", toString found), (" in byte string ", text),
      (" for attribute ", attr)], ", " ++ "expected format like '10240' or '10 KiB'", ?_, rfl⟩
    simp only [quoting, hfound, hbytes, hfor, hcomma, toString_text, String.append_assoc]
  | sizeRange text attr =>
    have htext : "byte string '" = "byte string " ++ "'" := by rfl
    have hrange : "' does not fit in 64 bits" = "'" ++ " does not fit in 64 bits" := by rfl
    refine ⟨[("byte string ", text), (" for attribute ", attr)], " does not fit in 64 bits", ?_,
      rfl⟩
    simp only [quoting, htext, hfor, hrange, toString_text, String.append_assoc]
  | sizeUnit unit text attr =>
    have hunit : "invalid bytes suffix '" = "invalid bytes suffix " ++ "'" := by rfl
    refine ⟨[("invalid bytes suffix ", unit), (" in byte string ", text),
      (" for attribute ", attr)],
      ", " ++ "expected one of: 'kib','mib','gib','tib','kb','mb','gb', or 'tb'", ?_, rfl⟩
    simp only [quoting, hunit, hbytes, hfor, hcomma, toString_text, String.append_assoc]
  | notBoolean attr =>
    have hattr : "invalid content for attribute '" = "invalid content for attribute " ++ "'" := by
      rfl
    have hvalue : "', expected boolean value 'true' or 'false'" =
      "'" ++ ", expected boolean value 'true' or 'false'" := by rfl
    refine ⟨[("invalid content for attribute ", attr)],
      ", expected boolean value 'true' or 'false'", ?_, rfl⟩
    simp only [quoting, hattr, hvalue, toString_text, String.append_assoc]
  | unknownWord value attr =>
    have hvalue : "transfer action has unknown value '" =
      "transfer action has unknown value " ++ "'" := by rfl
    have hattr : "' for '" = "'" ++ (" for " ++ "'") := by rfl
    have hend : "' attribute" = "'" ++ " attribute" := by rfl
    refine ⟨[("transfer action has unknown value ", value), (" for ", attr)], " attribute", ?_, rfl⟩
    simp only [quoting, hvalue, hattr, hend, toString_text, String.append_assoc]
  | unknownKind kind =>
    have hkind : "node has unknown action kind '" = "node has unknown action kind " ++ "'" := by rfl
    refine ⟨[("node has unknown action kind ", kind)],
      ", " ++ "expected one of: 'start','end','pause','synchronize', or 'transfer'", ?_, rfl⟩
    simp only [quoting, hkind, hcomma, toString_text, String.append_assoc]

/-- **A message names the texts that it repeats.** -/
theorem names_of_mem_echoed {f : Fault} {text : String} (h : text ∈ f.echoed) : f.Names text := by
  obtain ⟨pieces, rest, hmessage, hechoed⟩ := f.message_eq_quoting
  rw [Names, hmessage]
  exact exists_quoting_eq rest (hechoed ▸ h)

/-! ### Attributes -/

/-- The attribute that a fault is found in; a node of no known kind has none to be blamed. -/
def attribute? : Fault → Option String
  | missing _ attr | peerShape attr | peerPort _ attr | peerHost _ attr => some attr
  | sizeDigit _ _ attr | sizeRange _ attr | sizeUnit _ _ attr => some attr
  | notBoolean attr | unknownWord _ attr => some attr
  | serverPort _ => some "serverport"
  | noUsablePeers _ => some "peers"
  | unknownKind _ => none

/-- **A fault names the attribute that it is found in.** -/
theorem names_of_attribute? {f : Fault} {attr : String} (h : f.attribute? = some attr) :
    f.Names attr := by
  refine names_of_mem_echoed ?_
  cases f <;> cases h <;> simp [echoed]

end Fault

end TrafficGraph
