import CommandTelemetry.Command.Tree
import CommandTelemetry.CommandLine.Token

/-!
# Walking raw arguments

When a command line could not be read, its arguments still tell roughly which command was meant.
The walk goes down the tree on words that name a child, passes over options together with the value
that a known option takes as its next argument, and stops at everything else.

* `CommandTree.stride` is what one argument does, `CommandTree.walk` the walk from a node;
* `CommandTree.find` is the walk from the root.
-/

namespace CommandTelemetry

/-- What one argument does to the walk. -/
inductive Stride where
  /-- The walk ends here. -/
  | halt
  /-- The argument is passed over. -/
  | pass
  /-- The argument is passed over together with the next one. -/
  | passWithValue
  /-- The walk goes down to a child. -/
  | descend (child : NodeId)
deriving DecidableEq, Repr

namespace CommandTree

/-- An option is passed over alone, or with its value when it is known to take one. -/
def passOption (flag : Option FlagSpec) : Stride :=
  if flag.any (·.takesValue) then .passWithValue else .pass

/-- What an argument does to a walk that stands at `current`. -/
def stride (tree : CommandTree) (current : NodeId) (argument : String) : Stride :=
  match Token.read argument with
  | .terminator => .halt
  | .long name none => passOption ((tree.node? current).bind (·.long? name))
  | .long _ (some _) => .pass
  | .cluster letter [] => passOption ((tree.node? current).bind (·.short? letter))
  | .cluster _ (_ :: _) => .pass
  | .word word => match tree.child? current word with
    | some child => .descend child
    | none => .halt

/-- Where a walk from `current` ends. -/
def walk (tree : CommandTree) (current : NodeId) : List String → NodeId
  | [] => current
  | argument :: rest => match tree.stride current argument with
    | .halt => current
    | .pass => tree.walk current rest
    | .passWithValue => match rest with
      | [] => current
      | _ :: rest => tree.walk current rest
    | .descend child => tree.walk child rest

/-- The command that raw arguments were most likely meant for. -/
def find (tree : CommandTree) (arguments : List String) : NodeId := tree.walk root arguments

end CommandTree

end CommandTelemetry
