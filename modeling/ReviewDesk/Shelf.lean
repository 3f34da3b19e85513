import ReviewDesk.Clock.Reading
import ReviewDesk.Schema.Assessment
import ReviewDesk.Text.Quoted

set_option autoImplicit false

namespace ReviewDesk

structure ShelvedReport where
  language : String
  result : Assessment
  storedAt : Reading
deriving DecidableEq

structure Shelf where
  issued : Nat
  reports : List (String × ShelvedReport)
deriving DecidableEq

namespace Shelf

def empty : Shelf := ⟨0, []⟩

def lifetime : Rat := 300

def reportId (n : Nat) : String := String.ofList (Text.hex 32 n)

def isExpired (report : ShelvedReport) (now : Reading) : Bool :=
  (now.since report.storedAt).atLeast lifetime

def prune (shelf : Shelf) (now : Reading) : Shelf :=
  { shelf with reports := shelf.reports.filter fun entry => !isExpired entry.2 now }

def storeAs (shelf : Shelf) (id language : String) (result : Assessment) (now : Reading) :
    String × Shelf :=
  (id, ⟨shelf.issued + 1, (shelf.prune now).reports ++ [(id, ⟨language, result, now⟩)]⟩)

def store (shelf : Shelf) (language : String) (result : Assessment) (now : Reading) :
    String × Shelf :=
  shelf.storeAs (reportId (shelf.issued + 1)) language result now

def get? (shelf : Shelf) (id : String) : Option ShelvedReport := shelf.reports.lookup id

def live? (shelf : Shelf) (id : String) (now : Reading) : Option ShelvedReport :=
  (shelf.get? id).bind fun report => if isExpired report now then none else some report

def ids (shelf : Shelf) : List String := shelf.reports.map (·.1)

end Shelf

end ReviewDesk
