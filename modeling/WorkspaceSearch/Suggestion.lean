import WorkspaceSearch.Settings.Basic
import WorkspaceSearch.Store.Call

/-!
# Suggestions

What a user may go on to type after a beginning: queries of their own with that beginning, channels, and users whose
full name contains it, in this order and every suggestion once.  A source that fails suggests nothing.
-/

namespace WorkspaceSearch.Suggestion

/-- The suggestion of a channel. -/
def ofChannel (name : String) : String := "in:#" ++ name

/-- The suggestion of a user. -/
def ofUser (fullName : String) : String := "from:@" ++ fullName

/-- What a source has, and nothing when it has failed. -/
def orNothing : Except Error (List String) → List String
  | .ok names => names
  | .error _ => []

/-- What the three sources make of a beginning, one behind the other. -/
def merge (queries channels users : List String) : List String :=
  (queries ++ channels.map ofChannel ++ users.map ofUser).eraseDups

/-- The suggestions for a beginning; for one that is too short there are none, and no source is asked. -/
def suggest (settings : SuggestionSettings) (userId start : String) : Program (List String) :=
  if start.length < settings.minPrefixLength.toNat then .done []
  else
    (Program.ask (.recentQueriesWithPrefix userId start settings.historyLimit.toNat)).andThen fun queries =>
      (Program.ask (.channelNamesWithPrefix start settings.channelLimit.toNat)).andThen fun channels =>
        (Program.ask (.fullNamesContaining start settings.userLimit.toNat)).andThen fun users =>
          .done (merge (orNothing queries) (orNothing channels) (orNothing users))

end WorkspaceSearch.Suggestion
