/-!
# Rebalance protocols

How a group hands partitions from member to member. A protocol is named in capitals; a name is
read whatever the case of its ASCII letters, and an unknown name means no protocol.
-/
namespace LogConsumer

/-- How partitions move between the members of a group. -/
inductive RebalanceProtocol where
  /-- The consumer is in no group. -/
  | none
  /-- All partitions are taken back before they are handed out again. -/
  | eager
  /-- Only partitions that change hands are taken back. -/
  | cooperative
  deriving DecidableEq, Repr, Inhabited

namespace RebalanceProtocol

/-- The name of a protocol. -/
def name : RebalanceProtocol → String
  | none => "NONE"
  | eager => "EAGER"
  | cooperative => "COOPERATIVE"

/-- The protocol with a name. -/
def ofName (text : String) : RebalanceProtocol :=
  match text.toList.map Char.toUpper with
  | ['E', 'A', 'G', 'E', 'R'] => eager
  | ['C', 'O', 'O', 'P', 'E', 'R', 'A', 'T', 'I', 'V', 'E'] => cooperative
  | _ => none

/-- A protocol is read back from its name. -/
@[simp] theorem ofName_name (protocol : RebalanceProtocol) : ofName protocol.name = protocol := by
  cases protocol <;> decide

end RebalanceProtocol

end LogConsumer
