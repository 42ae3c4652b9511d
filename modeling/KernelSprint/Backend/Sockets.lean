import Mathlib.Data.List.Sort
import KernelSprint.Backend.Relay
import KernelSprint.Lib.PyText

/-!
# The five request sockets

What the handlers of `/ws/lab`, `/ws/benchmark`, `/ws/patch`, `/ws/chaos` and
`/ws/experiments` do about a request, before the relay loop that they share.
-/

set_option autoImplicit false

namespace KernelSprint.Sockets

open PyText Relay

/-- A number is kept as the text that Python prints for it. -/
inductive Json where
  | null
  | bool (value : Bool)
  | number (text : String)
  | string (value : String)
  | array (items : List Json)
  | object (fields : List (String × Json))

def Json.str : Json → String
  | .null => "None"
  | .bool true => "True"
  | .bool false => "False"
  | .number text => text
  | .string value => value
  | .array _ => ""
  | .object _ => ""

def errorEvent (message : String) : Json :=
  .object [("type", .string "error"), ("message", .string message)]

/-- `', '.join(sorted(names))` -/
def joinSorted (names : List String) : String :=
  String.intercalate ", " (names.insertionSort (· ≤ ·))

section Lab

-- `shlex.split`, with the text of the `ValueError` that it raises
variable (shlexSplit : String → Except String (List String))

def allowedCommands : List String := ["perf", "trace-cmd", "stress-ng", "ps", "top", "uname"]

def unparseable : String := "error: empty or unparseable command\n"

def refusal (first : String) : String :=
  "error: '" ++ first ++ "' is not allowed. Allowed commands: " ++
    joinSorted allowedCommands ++ "\n"

def labSocket (commandLine : String) (agent : String → Outcome String) : Action String :=
  let commandLine := strip commandLine
  if commandLine = "" then .ignore
  else
    match shlexSplit commandLine with
    | .error _ => .reply unparseable
    | .ok [] => .reply unparseable
    | .ok (first :: _) =>
        if first ∈ allowedCommands then .serve (agent commandLine)
        else .reply (refusal first)

end Lab

def benchmarkSocket (kernel : String) (agent : String → Outcome Json) : Action Json :=
  .serve (agent (strip kernel))

def patchSocket (patchText : String) (agent : String → Outcome Json) : Action Json :=
  .serve (agent patchText)

/-- The two sockets that take the name of a factory under `key`.  A frame that
does not decode, a request that is no dictionary and a name that cannot be a
key make the handler raise. -/
def factorySocket (key : String) (names : List String) (request : Option Json)
    (agent : Json → Outcome Json) : Action Json :=
  let unknown (name : Json) := errorEvent <|
    "unknown " ++ key ++ " '" ++ name.str ++ "'. Allowed: " ++ joinSorted names
  match request with
  | some (.object fields) =>
      match (fields.lookup key).getD .null with
      | .array _ => .crash
      | .object _ => .crash
      | .string name =>
          if name ∈ names then .serve (agent (.object fields))
          else .reply (unknown (.string name))
      | name => .reply (unknown name)
  | _ => .crash

/-- The keys of `ACTIONS`. -/
def actions : List String := ["cpu", "memory", "disk", "network", "kill"]

def chaosSocket : Option Json → (Json → Outcome Json) → Action Json :=
  factorySocket "action" actions

/-- The keys of `TESTS`. -/
def tests : List String :=
  ["scheduler_optimization", "process_creation", "context_switch", "ipc_performance"]

def experimentsSocket : Option Json → (Json → Outcome Json) → Action Json :=
  factorySocket "test" tests

/-! ## One machine for each -/

inductive SocketName where
  | lab
  | benchmark
  | patch
  | chaos
  | experiments

abbrev SocketName.Frame : SocketName → Type
  | .lab | .benchmark | .patch => String
  | .chaos | .experiments => Option Json

abbrev SocketName.Event : SocketName → Type
  | .lab => String
  | _ => Json

/-- What the generator of the socket's agent takes. -/
abbrev SocketName.Params : SocketName → Type
  | .lab | .benchmark | .patch => String
  | .chaos | .experiments => Json

def socket (shlexSplit : String → Except String (List String)) :
    (name : SocketName) → name.Frame → (name.Params → Outcome name.Event) → Action name.Event
  | .lab => labSocket shlexSplit
  | .benchmark => benchmarkSocket
  | .patch => patchSocket
  | .chaos => chaosSocket
  | .experiments => experimentsSocket

end KernelSprint.Sockets
