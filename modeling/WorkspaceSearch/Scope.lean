import WorkspaceSearch.Error
import WorkspaceSearch.Text.Blank
import WorkspaceSearch.Text.LowerCase

/-!
# Domains, scopes and orders

A search runs over domains: messages, direct messages, files, channels and users.  A scope is one of them or all of
them, and the results are ordered by relevance or by date.
-/

namespace WorkspaceSearch

/-- A kind of thing that can be searched. -/
inductive Domain where
  | messages
  | directMessages
  | files
  | channels
  | users
  deriving DecidableEq, Repr, Inhabited

namespace Domain

/-- The name of a domain. -/
def name : Domain → String
  | .messages => "messages"
  | .directMessages => "dms"
  | .files => "files"
  | .channels => "channels"
  | .users => "users"

/-- Every domain, in the order in which results are merged. -/
def all : List Domain := [.messages, .directMessages, .files, .channels, .users]

theorem nodup_all : all.Nodup := by decide

end Domain

/-- The domains that a search runs over. -/
inductive Scope where
  | all
  | only (domain : Domain)
  deriving DecidableEq, Repr

namespace Scope

instance : Inhabited Scope := ⟨.all⟩

/-- The name of a scope. -/
def name : Scope → String
  | .all => "all"
  | .only d => d.name

/-- The domains of a scope, in the order in which results are merged. -/
def domains : Scope → List Domain
  | .all => Domain.all
  | .only d => [d]

/-- Every scope. -/
def every : List Scope := .all :: Domain.all.map .only

/-- The scope a name means, blanks around it and case aside. -/
def ofName (text : String) : Except Error Scope :=
  let name := Text.lower (Text.trim text)
  if name = "direct_messages" then .ok (.only .directMessages)
  else
    match every.find? fun s => s.name = name with
    | some s => .ok s
    | none => .error (.request (.unknownScope name))

end Scope

/-- What results are ordered by. -/
inductive SortBy where
  | relevance
  | date
  deriving DecidableEq, Repr, Inhabited

namespace SortBy

/-- The name of an ordering key. -/
def name : SortBy → String
  | .relevance => "relevance"
  | .date => "date"

/-- The ordering key a name means, blanks around it and case aside. -/
def ofName (text : String) : Except Error SortBy :=
  let name := Text.lower (Text.trim text)
  if name = "relevance" then .ok .relevance
  else if name = "date" then .ok .date
  else .error (.request (.unknownSortKey name))

end SortBy

/-- The direction of an order. -/
inductive SortOrder where
  | ascending
  | descending
  deriving DecidableEq, Repr

namespace SortOrder

instance : Inhabited SortOrder := ⟨.descending⟩

/-- The name of a direction. -/
def name : SortOrder → String
  | .ascending => "asc"
  | .descending => "desc"

/-- The direction a name means, blanks around it and case aside. -/
def ofName (text : String) : Except Error SortOrder :=
  let name := Text.lower (Text.trim text)
  if name = "asc" then .ok .ascending
  else if name = "desc" then .ok .descending
  else .error (.request (.unknownSortOrder name))

end SortOrder

end WorkspaceSearch
