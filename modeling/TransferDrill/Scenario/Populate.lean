import TransferDrill.Json.Document
import TransferDrill.Json.Writable
import TransferDrill.Model.Operation
import TransferDrill.Scenario.Context
import TransferDrill.Text.Replace

/-!
# Filling templates

The templates are written as one document without their absent members, unless one nests too
deep. Neither in them nor among the amounts may an integer have too many digits to be written. The
placeholders are replaced in the text one after another, each text put in being escaped as the
body of a string, and the result is read as operations again. So a text that is put in may
complete or contain a placeholder that is replaced later, and a text may make a member that must
not be empty empty. At last every amount takes the currency of the context.
-/

namespace TransferDrill

open Schema Text

/-- Why templates cannot be filled, or are no operations then. -/
inductive PopulateFault where
  | tooDeep (e : TooDeep)
  | overlong
  | unreadable
  | invalid (issues : List Issue)
deriving DecidableEq, Repr

namespace Populate

/-- Replace one placeholder in the text of a document. -/
def fill (text : List Char) (filling : Placeholder × String) : List Char :=
  replace filling.1.mark.toList (Escaped.encode filling.2.toList) text

/-- The document of templates, as text. -/
def templateText (operations : List Operation) : Except PopulateFault (List Char) :=
  match Record.writeAll false operations with
  | .ok documents =>
    if (Json.array documents).isWritable then .ok (Json.array documents).written
    else .error .overlong
  | .error e => .error (.tooDeep e)

/-- Give an amount, if there is one, the currency of the context. -/
def setCurrency (currency : Currency) (operation : Operation) : Operation :=
  { operation with amount := operation.amount.map fun amount => { amount with currency } }

/-- Read operations one after another; the first bad one answers. -/
def readAll : List Json → Except PopulateFault (List Operation)
  | [] => .ok []
  | document :: rest =>
    match (Record.read document : Reading Operation) with
    | .rejected issues => .error (.invalid issues)
    | .accepted operation => (operation :: ·) <$> readAll rest

end Populate

/-- The operations of a transfer from its templates. -/
def Context.populate (context : Context) (operations : List Operation) :
    Except PopulateFault (List Operation) := do
  let template ← Populate.templateText operations
  if !context.amounts.all Numeral.isShort then .error .overlong
  match Json.read? (context.fillings.foldl Populate.fill template) with
  | some (.array documents) =>
    (Populate.readAll documents).map fun filled =>
      filled.map (Populate.setCurrency context.currency)
  | _ => .error .unreadable

end TransferDrill
