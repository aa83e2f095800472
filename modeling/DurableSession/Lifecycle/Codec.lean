import DurableSession.Lifecycle.Phase

/-!
Phases as text frames: a fixed mark at the front, then the phase as a JSON record. A text without
the mark belongs to the application.

The record names its kind in the member `phase`, wherever it stands, and is judged by it as soon as
it is met; members that the kind does not have are passed over. A list of the kind and its contents
in order is read too.
-/

namespace DurableSession.Lifecycle

namespace Phase

open Json (Draft)

/-- What every lifecycle frame starts with. -/
def mark : String := "Phase "

/-- The frame of a phase. -/
def encode (p : Phase) : String := mark ++ Json.render p.toDocument

/-- Belongs to the lifecycle, not to the application. -/
def isFrame (text : String) : Bool := mark.toList.isPrefixOf text.toList

/-- Decode what a phase of the kind carries, given in the order of the kind's fields. -/
def ofContents : PhaseKind → List Document → Except Mismatch Phase
  | .signonAttempt, [login, secret] => do
    return .signonAttempt (← login.asString) (← Secret.ofDocument secret)
  | .secondarySignonNeeded, [token] => do return .secondarySignonNeeded (← Token.ofDocument token)
  | .secondarySignonAttempt, [token, code] => do
    return .secondarySignonAttempt (← Token.ofDocument token) (← Secret.ofDocument code)
  | .resumeSession, [session] => do return .resumeSession (← SessionId.ofDocument session)
  | .sessionValid, [session] => do return .sessionValid (← SessionId.ofDocument session)
  | .signonFailureNotice, [failure] => do
    return .signonFailureNotice (← Failure.ofDocument failure)
  | .signoff, [] => .ok .signoff
  | _, _ => .error (.refused "")

/-- Check one piece of a phase's contents on its own. -/
def checkField (kind : PhaseKind) (name : String) (d : Document) : Except Mismatch Unit :=
  match kind, name with
  | .secondarySignonNeeded, "token" | .secondarySignonAttempt, "token" =>
    (Token.ofDocument d).map fun _ => ()
  | .resumeSession, "session" | .sessionValid, "session" => (SessionId.ofDocument d).map fun _ => ()
  | .signonFailureNotice, "failure" => (Failure.ofDocument d).map fun _ => ()
  | _, _ => d.asString.map fun _ => ()

/--
Go through the members in order: a known one is checked when it is met, and must not be met twice;
others are passed over. `seen` holds the known members met so far.
-/
def scanMembers (kind : PhaseKind) (seen : List (String × Document)) :
    List (String × Document) → Except Mismatch (List (String × Document))
  | [] => .ok seen
  | (name, d) :: rest =>
    if name ∈ kind.fields then
      if seen.any (·.1 = name) then .error (.duplicateField name)
      else
        match checkField kind name d with
        | .error m => .error m
        | .ok () => scanMembers kind ((name, d) :: seen) rest
    else scanMembers kind seen rest

/-- The fields of the kind in order, of which the first that was not given is missed. -/
def collectFields (seen : List (String × Document)) : List String → Except Mismatch (List Document)
  | [] => .ok []
  | name :: names =>
    match seen.find? (·.1 = name) with
    | none => .error (.missingField name)
    | some (_, d) =>
      match collectFields seen names with
      | .error m => .error m
      | .ok ds => .ok (d :: ds)

/-- A phase of the kind from its members. -/
def ofMembers (kind : PhaseKind) (members : List (String × Document)) : Except Mismatch Phase := do
  let seen ← scanMembers kind [] members
  let contents ← collectFields seen kind.fields
  ofContents kind contents

/-- Check the items of the list form one by one against the kind's fields. -/
def scanItems (kind : PhaseKind) : List String → List Document → Except Mismatch Unit
  | name :: names, d :: rest =>
    match checkField kind name d with
    | .error m => .error m
    | .ok () => scanItems kind names rest
  | _, _ => .ok ()

/-- A phase of the kind from its contents in order. -/
def ofItems (kind : PhaseKind) (items : List Document) : Except Mismatch Phase := do
  let wanted := kind.fields.length
  let _ ← scanItems kind kind.fields items
  if items.length < wanted then
    .error (.wrongLength items.length
      ("struct variant Phase::" ++ kind.title ++ " with " ++ elements wanted))
  else if wanted < items.length then
    .error (.wrongLength items.length (elements wanted ++ " in sequence"))
  else ofContents kind items

/-- Lift a judgement on a whole document. -/
def judged {α : Type} : Except Mismatch α → Except Json.Error α
  | .ok a => .ok a
  | .error m => .error (.mismatch m)

/-- A draft that has to be whole. -/
def needed (d : Draft) : Except Json.Error Document :=
  match d.complete with
  | .ok d => .ok d
  | .error f => .error (.fault f)

/-- Read the members of a record up to its end: the kind, and the others in order. -/
def readMembers (kind : Option PhaseKind) (others : List (String × Document)) :
    List (String × Draft) → Except Json.Error (Option PhaseKind × List (String × Document))
  | [] => .ok (kind, others.reverse)
  | (name, d) :: rest =>
    if name = "phase" then
      if kind.isSome then .error (.mismatch (.duplicateField name))
      else
        match d.plain PhaseKind.ofDocument with
        | .error e => .error e
        | .ok k => readMembers (some k) others rest
    else
      match needed d with
      | .error e => .error e
      | .ok d => readMembers kind ((name, d) :: others) rest

/-- A fault that was met where nothing more was read. -/
def atEnd : Option Json.Fault → Except Json.Error Unit
  | none => .ok ()
  | some f => .error (.fault f)

/-- A phase from its record or its list. -/
def ofDraft (d : Draft) : Except Json.Error Phase :=
  match d.members?, d.items? with
  | some (members, fault), _ => do
    let (kind, others) ← readMembers none [] members
    let _ ← atEnd fault
    match kind with
    | none => .error (.mismatch (.missingField "phase"))
    | some kind => judged (ofMembers kind others)
  | none, some ([], fault) => do
    let _ ← atEnd fault
    .error (.mismatch (.missingField "phase"))
  | none, some (first :: rest, fault) => do
    let kind ← first.plain PhaseKind.ofDocument
    let items ← rest.mapM needed
    let _ ← atEnd fault
    judged (ofItems kind items)
  | none, none => do
    let met ← d.shape
    .error (.mismatch (.wrongType met "internally tagged enum Phase"))

/-- A phase from a document. -/
def ofDocument (d : Document) : Except Json.Error Phase := ofDraft (.whole d)

/-- The phase of a lifecycle frame; nothing for a text of the application. -/
def decodeText (text : String) : Option (Except Json.Error Phase) :=
  if isFrame text then
    some (Json.decode ofDraft (String.ofList (text.toList.drop mark.toList.length)))
  else none

end Phase

end DurableSession.Lifecycle
