import SqlBuild.Text.Basic

/-!
# Symbolic segments

References under a `css` or `ibs` directory may use short segments: `ss` for the directory of the
SQL sources and, right after it, a code for one of its parts. They are written out one table entry
after the other, the longer entries first, so that the bare `/ss/` matches only what no other entry
did. A match shares the separator at its end with what follows.
-/

namespace SqlBuild

namespace Reference

/-- The codes of the parts of the SQL sources, with the directories they stand for. -/
def areas : List (Text × Text) :=
  [("ap", "Accounts_Payable"), ("ar", "Accounts_Receivable"), ("ba", "Basics"),
    ("bl", "Billing"), ("cm", "Commissions"), ("cs", "Customer_Service"), ("ct", "Customer"),
    ("dw", "Data_Warehouse"), ("em", "Email"), ("fe", "Front_End"), ("ib", "Interfaces"),
    ("in", "Inventory"), ("mo", "Monitoring"), ("or", "Orders"), ("pm", "Payments"),
    ("pr", "Products"), ("ra", "Rating"), ("rp", "Reports"), ("sc", "Security"),
    ("sv", "Service"), ("tx", "Taxation"), ("ut", "Utilities"), ("wf", "Workflow")]

/-- Each short form with its long form, separators included, in the order of replacement. -/
def symbols : List (Text × Text) :=
  areas.map (fun (code, area) => ("/ss/" ++ code ++ "/", "/SQL_Sources/" ++ area ++ "/")) ++
    [(("/ss/" : Text), ("/SQL_Sources/" : Text))]

/-- Replaces the occurrences of `short` in any case by `long`, after passing over the next `k`
characters. The last character of an occurrence is left to start the next one. -/
def replaceSymbolFrom (short long : Text) : Nat → Text → Text
  | _, [] => []
  | k + 1, _ :: t => replaceSymbolFrom short long k t
  | 0, c :: t =>
    if Text.sameIgnoringCase ((c :: t).take short.length) short then
      long.dropLast ++ replaceSymbolFrom short long (short.length - 2) t
    else c :: replaceSymbolFrom short long 0 t

def replaceSymbol (path : Text) (entry : Text × Text) : Text :=
  replaceSymbolFrom entry.1 entry.2 0 path

/-- Whether a segment says that symbols are written out. -/
def isMarking (segment : Text) : Bool :=
  Text.sameIgnoringCase segment "css" || Text.sameIgnoringCase segment "ibs"

/-- The path a reference stands for: backslashes turned, and the symbols written out when it has a
marking segment. -/
def expandSymbols (reference : Text) : Text :=
  let path := reference.replaceChar '\\' "/"
  if (path.splitOn '/').any isMarking then symbols.foldl replaceSymbol path else path

end Reference

end SqlBuild
