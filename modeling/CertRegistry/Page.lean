import CertRegistry.Store

/-!
# Pages

A table is listed page by page. There is always a first page, even of an empty table; every other
page that does not exist is empty. The number of pages is a quotient of doubles, rounded up.
-/

namespace CertRegistry

/-- The number of pages for so many rows. -/
def pageCount (rows : Nat) (perPage : Int) : Int :=
  ((Double.ofRatio (decide (perPage < 0)) (max 1 rows) perPage.natAbs).ceil?).getD 0

/-- The rows of a page. A page size of zero fails, unless the page number is too small anyway. -/
def pageOf {α : Type} (rows : List α) (page perPage : Int) : Except Failure (List α) :=
  if page < 1 then .ok []
  else if perPage = 0 then .error .emptyPage
  else if pageCount rows.length perPage < page then .ok []
  else .ok ((rows.drop ((page - 1) * perPage).toNat).take perPage.toNat)

/-- The page number that a value stands for: a double must be whole. -/
def pageNumber (v : Json) : Except Failure Int :=
  match v with
  | .float x =>
    match if x.isWhole then x.truncate? else none with
    | some n => .ok n
    | none => .error .badPage
  | v =>
    match v.toInteger with
    | .ok n => .ok n
    | .error _ => .error .badPage

/-- The number of a page and its size, from the values given for them. -/
def pagePlace (page perPage : Json) : Except Failure (Int × Int) :=
  match perPage.toInteger with
  | .error e => .error (.noInteger e)
  | .ok perPage => (pageNumber page).map fun page => (page, perPage)

/-- The rows of a page, its number and size given by values, and the number of all rows. The
storage is reached once both are known. -/
def listPage {α : Type} (ctx : Context) (rows : List α) (page perPage : Json) :
    Except Failure (List α × Nat) := do
  let (page, perPage) ← pagePlace page perPage
  ctx.reach
  return (← pageOf rows page perPage, rows.length)

end CertRegistry
