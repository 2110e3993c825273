/-
Links between the pages of a list and the headers that carry them.

A page has a link to each neighbour that makes sense: to the one before and to the first unless it
is among the first two, to the next one while rows may follow, and to the last one.
-/
import SensorRegistry.Page.Options

namespace SensorRegistry

/-- What a link leads to. -/
inductive Relation
  | prev
  | next
  | last
  | first
  deriving DecidableEq, Repr

def Relation.name : Relation → Text
  | .prev => "prev".toList
  | .next => "next".toList
  | .last => "last".toList
  | .first => "first".toList

/-- A link to another page of the same list. -/
structure PageLink where
  relation : Relation
  offset : Int
  limit : Int
  deriving DecidableEq, Repr

namespace PageOptions

/-- The links of a page, in the order in which they are written. -/
def links (page : Page) : List PageLink :=
  (if 1 < page.offset then [⟨.prev, page.offset - 1, page.limit⟩] else [])
    ++ (if page.total = 0 ∨ page.offset < page.total then
        [⟨.next, min (page.offset + 1) IntegerRange.int64.greatest, page.limit⟩] else [])
    ++ (if page.offset < page.total - 1 then [⟨.last, page.total, page.limit⟩] else [])
    ++ (if 1 < page.offset then [⟨.first, 1, page.limit⟩] else [])

/-- The query string that leads to a page. -/
def linkQuery (o : PageOptions) (link : PageLink) : Text :=
  o.offsetName ++ '=' :: Text.ofInt link.offset ++ '&' :: o.limitName
    ++ '=' :: Text.ofInt link.limit

/-- A link as a header writes it. -/
def writeLink (o : PageOptions) (base : Text) (link : PageLink) : Text :=
  '<' :: base ++ '?' :: o.linkQuery link ++ ">; rel=\"".toList ++ link.relation.name ++ ['"']

/-- The value of the `Link` header, if links are on and there are any. -/
def linkHeader? (o : PageOptions) (base : Text) (page : Page) : Option Text :=
  if o.linkHeader ∧ links page ≠ [] then
    some (Text.join "," ((links page).map (o.writeLink base)))
  else none

/-- The headers that state the numbers of a page, if they are on. -/
def pageHeaderFields (o : PageOptions) (page : Page) : List (Text × Text) :=
  if o.pageHeaders then
    [(o.totalName, page.total), (o.offsetName, page.offset), (o.limitName, page.limit)].map
      fun (name, n) => (o.headerStem ++ '-' :: name, Text.ofInt n)
  else []

/-- All headers that a page adds to a response. -/
def responseHeaders (o : PageOptions) (base : Text) (page : Page) : List (Text × Text) :=
  ((o.linkHeader? base page).map fun value => ("Link".toList, value)).toList
    ++ o.pageHeaderFields page

end PageOptions

end SensorRegistry
