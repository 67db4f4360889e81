import Blockwright.Loading.Packages
import Blockwright.Project.Edit
import Blockwright.Source.Generator

/-!
# Sessions

A project that is edited step by step.  Every step answers something, and a
step that cannot be taken answers why and leaves the session as it was.
-/

namespace Blockwright

/-- A project under the editor's hands, with the settings it is written with. -/
structure Session where
  project : Project
  settings : Settings

/-- What a user does in a session. -/
inductive SessionStep where
  | drop (place : Place) (type : String) (timestamp : Int)
  | set (place : Place) (index : Nat) (property : String) (value : Document)
  | remove (place : Place) (index : Nat)
  | move (place : Place) (index position : Nat)
  | method (document : Document)
  | language (name : String)
  | settings (document : Document)
  | utilities
  | walk
  | filename
  | generate

/-- What a step answers. -/
inductive SessionAnswer where
  | element (element : Element)
  | properties (properties : Properties)
  | removed (id : String)
  | ids (ids : List String)
  | count (methods : Nat)
  | target (language : Language)
  | settings (settings : Settings)
  | utilities (utilities : List Utility)
  | filename (name : String)
  | source (text : Text)
  /-- The place of an edit does not exist. -/
  | nowhere
  /-- A document is not what the step needs. -/
  | invalid (model : Schema.Model) (violations : List Schema.Violation)

namespace Session

/-- A session after an edit of its project, or the session itself if the edit has no place. -/
def edited {α : Type}
    (session : Session) (outcome : Option (Project × α)) (answer : α → SessionAnswer) :
    SessionAnswer × Session :=
  match outcome with
  | some (project, result) => (answer result, { session with project := project })
  | none => (.nowhere, session)

/-- The answer of a step, and the session after it. -/
def take (packages : Packages) (step : SessionStep) (session : Session) :
    SessionAnswer × Session :=
  match step with
  | .drop place type timestamp =>
      session.edited (session.project.drop place type timestamp) .element
  | .set place index property value =>
      session.edited (session.project.setProperty place index property value) .properties
  | .remove place index =>
      session.edited (session.project.remove place index) fun element => .removed element.id
  | .move place index position =>
      session.edited (session.project.move place index position) fun elements =>
        .ids (elements.map (·.id))
  | .method document =>
      match packages.validator.alone (.record .method) document with
      | .valid method =>
          let project := session.project.addMethod method
          (.count project.methods.length, { session with project := project })
      | .invalid first others => (.invalid .method (first :: others), session)
  | .language name =>
      let project := session.project.withLanguage name
      (.target project.target, { session with project := project })
  | .settings document =>
      match packages.checkSettings document with
      | .valid settings => (.settings settings, { session with settings := settings })
      | .invalid first others => (.invalid .settings (first :: others), session)
  | .utilities => (.utilities (collectUtilities session.project.methods), session)
  | .walk => (.ids (session.project.walk.map (·.id)), session)
  | .filename => (.filename session.project.filename, session)
  | .generate => (.source (session.project.source session.settings), session)

/-- The log records of a step; only writing the project's file reports anything. -/
def records (step : SessionStep) (session : Session) : List Record :=
  match step with
  | .generate => session.project.records session.settings
  | _ => []

/-- The answers of steps taken one after another, and the log records of them all. -/
def run (packages : Packages) :
    List SessionStep → Session → List SessionAnswer × List Record
  | [], _ => ([], [])
  | step :: steps, session =>
      let (answer, next) := session.take packages step
      let (answers, later) := run packages steps next
      (answer :: answers, records step session ++ later)

end Session

end Blockwright
