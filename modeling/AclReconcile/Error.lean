/-!
# Failures

A failure is a tree: a named condition with its fixed text, possibly a detail after it, inside
layers of context that say where it happened. Its message is read off the tree, and its
categories are every named condition the tree holds, so that a caller can ask whether a
failure is, deep down, a missing path or a cancelled run, however it was wrapped.

Some layers only keep the text of what they wrap (`Error.detail` with the inner message): the
inner categories are then gone, as a report should not claim a cause it only quotes.
-/

namespace AclReconcile

/-- Named conditions, each with one fixed text. -/
inductive Sentinel where
  | unsupportedFormat | duplicatePath | invalidPath | notExist | exist | notDirectory
  | containerNotExist | invalidContainer | backendUnsupported | malformedAddress
  | unknownProtocol | invalidEntry | invalidObjectType | defaultAclOnFile
  deriving DecidableEq, Repr, Inhabited

/-- The text of a named condition. -/
def Sentinel.text : Sentinel → String
  | .unsupportedFormat => "aclsync: unsupported configuration format"
  | .duplicatePath => "aclsync: duplicate declared path"
  | .invalidPath => "aclsync: invalid path detected"
  | .notExist => "aclsync: path does not exist"
  | .exist => "aclsync: path already exists"
  | .notDirectory => "aclsync: not a directory"
  | .containerNotExist => "aclsync: container does not exist"
  | .invalidContainer => "aclsync: invalid container name"
  | .backendUnsupported => "aclsync: backend capability unsupported"
  | .malformedAddress => "aclsync: malformed backend address"
  | .unknownProtocol => "aclsync: unknown backend protocol"
  | .invalidEntry => "aclsync: invalid acl entry"
  | .invalidObjectType => "aclsync: invalid acl object type"
  | .defaultAclOnFile => "aclsync: default acl not allowed on files"

/-- What kind of failure an answer reports. -/
inductive Category where
  | canceled
  | retriesExhausted
  | named (s : Sentinel)
  | injected
  | malformedJson
  | mistypedJson
  deriving DecidableEq, Repr, Inhabited

/-- A failure. -/
inductive Error where
  /-- A named condition on its own. -/
  | sentinel (s : Sentinel)
  /-- A named condition followed by `": "` and a detail. -/
  | detail (s : Sentinel) (text : String)
  /-- A failure inside a context: `"label: inner"`. -/
  | context (label : String) (inner : Error)
  /-- A failure known only by its text. -/
  | plain (text : String)
  /-- A text that is not JSON. -/
  | malformedJson (text : String)
  /-- A JSON value of the wrong kind for its place. -/
  | mistypedJson (text : String)
  /-- The run was cancelled. -/
  | canceled
  /-- A failure planted by a test of the storage layer. -/
  | injected
  /-- Every attempt of an operation failed; the last failure is kept. -/
  | exhausted (op : String) (attempts : Nat) (last : Error)
  /-- Two failures reported as one: `"first: second"`. -/
  | chain (first second : Error)
  /-- Several failures, one per line. -/
  | joined (first rest : Error)
  deriving Inhabited

namespace Error

/-- The text of a failure. -/
def message : Error → String
  | .sentinel s => s.text
  | .detail s t => s.text ++ ": " ++ t
  | .context l e => l ++ ": " ++ e.message
  | .plain t => t
  | .malformedJson t => t
  | .mistypedJson t => t
  | .canceled => "context canceled"
  | .injected => "injected failure"
  | .exhausted op n e =>
    "aclsync: maximum " ++ toString n ++ " retries exceeded for '" ++ op ++ "': " ++ e.message
  | .chain a b => a.message ++ ": " ++ b.message
  | .joined a b => a.message ++ "\n" ++ b.message

/-- Every category the failure holds, outermost first. -/
def categories : Error → List Category
  | .sentinel s => [.named s]
  | .detail s _ => [.named s]
  | .context _ e => e.categories
  | .plain _ => []
  | .malformedJson _ => [.malformedJson]
  | .mistypedJson _ => [.mistypedJson]
  | .canceled => [.canceled]
  | .injected => [.injected]
  | .exhausted _ _ e => .retriesExhausted :: e.categories
  | .chain a b => a.categories ++ b.categories
  | .joined a b => a.categories ++ b.categories

/-- Whether the failure holds a category. -/
def holds (e : Error) (c : Category) : Bool := e.categories.contains c

/-- Whether the failure is, deep down, a named condition. -/
def is (e : Error) (s : Sentinel) : Bool := e.holds (.named s)

/-- Categories in the order an answer looks for them: cancellation, exhausted retries, the
named conditions in their declared order, planted failures, then the two JSON kinds. -/
def precedence : List Category :=
  [.canceled, .retriesExhausted, .named .unsupportedFormat, .named .duplicatePath,
    .named .invalidPath, .named .notExist, .named .exist, .named .notDirectory,
    .named .containerNotExist, .named .invalidContainer, .named .backendUnsupported,
    .named .malformedAddress, .named .unknownProtocol, .named .invalidEntry,
    .named .invalidObjectType, .named .defaultAclOnFile, .injected, .malformedJson,
    .mistypedJson]

/-- The category an answer reports: the first of `precedence` the failure holds. -/
def kind? (e : Error) : Option Category := precedence.find? e.holds

/-- Joins failures one per line; `none` when there are none. -/
def join? : List Error → Option Error
  | [] => none
  | [e] => some e
  | e :: rest => (join? rest).map (Error.joined e)

end Error

/-- Failures collected in order, reported together. -/
structure Errors where
  items : List Error := []
  deriving Inhabited

namespace Errors

/-- Adds a failure; nothing is added for `none`. -/
def add (es : Errors) (e : Option Error) : Errors :=
  match e with
  | some err => ⟨es.items ++ [err]⟩
  | none => es

/-- Forgets every failure. -/
def clear (_ : Errors) : Errors := ⟨[]⟩

/-- The failures joined one per line, or `none`. -/
def result (es : Errors) : Option Error := Error.join? es.items

end Errors

end AclReconcile
