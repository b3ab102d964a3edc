import VirtualRecords.Record

/-! Pages: windows on a list of records. Pages are counted from zero. The offset of a
window stays at the greatest word where it would pass it, but the number of the next page is
not bounded so: behind the page of the greatest number there is none, and whether one follows
has no answer there. -/

namespace VirtualRecords

structure Window where
  page : UInt64
  size : UInt64
deriving DecidableEq

namespace Window

def greatestOffset : Nat := 18446744073709551615

def offset (window : Window) : Nat :=
  min (window.page.toNat * window.size.toNat) greatestOffset

def limit (window : Window) : Nat := window.size.toNat

/-- The number of the window behind, if a word holds it. -/
def next? (window : Window) : Option UInt64 :=
  if window.page.toNat < greatestOffset then some (window.page + 1) else none

def cut (window : Window) (records : List Record) : List Record :=
  (records.drop window.offset).take window.limit

end Window

structure Page where
  records : List Record
  total : Nat
  window : Window

namespace Page

def ofRecords (records : List Record) (window : Window) : Page where
  records := window.cut records
  total := records.length
  window

/-- The number of pages, the last of which may be short; none if pages have no size. -/
def totalPages (page : Page) : Nat :=
  (page.total + page.window.limit - 1) / page.window.limit

def hasNext? (page : Page) : Option Bool :=
  page.window.next?.map fun next => next.toNat < page.totalPages

def toJson (page : Page) : Json := .objectOf [
  ("records", .array (page.records.map Record.toJson)),
  ("total", .ofCount page.total),
  ("page", .ofUInt64 page.window.page),
  ("size", .ofUInt64 page.window.size)]

end Page
end VirtualRecords
