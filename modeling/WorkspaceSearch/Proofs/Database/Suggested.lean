import WorkspaceSearch.Proofs.Database.Names
import WorkspaceSearch.Proofs.Database.Recent
import WorkspaceSearch.Proofs.Database.Visible
import WorkspaceSearch.Proofs.Query.Written

/-!
# Suggestions as queries

A suggestion is a query from the user's history, a channel behind `in:#` or the full name of a user behind `from:@`
(`Suggestion.IsSource`).  The parser reads a channel back when its name is one word, and that name leads to the channel.
A full name is one word only when a part of it is missing, and it leads to its user only when it is a username or an
address as well.
-/

namespace WorkspaceSearch

/-! ### Full names -/

namespace Stored

private theorem dropWhile_append_of_mem {xs : List Char} {a c : Char} (ha : a ∈ xs) (hne : a ≠ c) (ys : List Char) :
    (xs ++ ys).dropWhile (· == c) = xs.dropWhile (· == c) ++ ys := by
  have hkept : (xs.dropWhile (· == c)).isEmpty = false := by
    rw [Bool.eq_false_iff, ne_eq, List.isEmpty_iff, List.dropWhile_eq_nil_iff]
    exact fun h => hne (beq_iff_eq.1 (h a ha))
  rw [List.dropWhile_append, hkept]
  rfl

/-- The space between two parts of a name stays. -/
private theorem space_mem_trimSpaces {u : User} (hfirst : ∃ a ∈ u.firstName.toList, a ≠ ' ')
    (hlast : ∃ b ∈ u.lastName.toList, b ≠ ' ') : ' ' ∈ (trimSpaces u.rawName).toList := by
  obtain ⟨a, ha, hane⟩ := hfirst
  obtain ⟨b, hb, hbne⟩ := hlast
  have hname : u.rawName.toList = u.firstName.toList ++ ' ' :: u.lastName.toList := by
    rw [User.rawName, String.toList_append, String.toList_append, List.append_assoc]
    rfl
  rw [trimSpaces, String.toList_ofList, List.mem_reverse, hname, dropWhile_append_of_mem ha hane, List.reverse_append,
    List.reverse_cons, List.append_assoc, dropWhile_append_of_mem (List.mem_reverse.2 hb) hbne]
  simp

/-- A user with a first and a last name cannot be written behind a sigil. -/
private theorem not_writable_fullName {u : User} (hfirst : ∃ a ∈ u.firstName.toList, a ≠ ' ')
    (hlast : ∃ b ∈ u.lastName.toList, b ≠ ' ') (sigil : Char) : ¬Query.Writable sigil (trimSpaces u.rawName) := by
  intro h
  have hsolid := h.solid ' ' (space_mem_trimSpaces hfirst hlast)
  rw [Chars.isBlank_space] at hsolid
  cases hsolid

end Stored

/-! ### Sources -/

namespace Suggestion

open Database (answer)

/-- What a suggestion for a user is made from: one of their queries, a channel or a user. -/
inductive IsSource (db : Database) (userId : String) : String → Prop
  | query {row : Stored.History} : row ∈ db.historyRows userId → IsSource db userId row.query
  | channel {c : Stored.Channel} : c ∈ db.channels.toList → IsSource db userId (ofChannel c.name)
  | user {u : Stored.User} : u ∈ db.users.toList → IsSource db userId (ofUser (Stored.trimSpaces u.rawName))

variable {db : Database} {userId start s : String} {limit : Nat}

private theorem mem_orNothing {outcome : Except DatabaseFault (List String)} :
    s ∈ orNothing (db.found outcome).1 ↔ ∃ names, outcome = .ok names ∧ s ∈ names := by
  cases outcome with
  | ok names =>
    constructor
    · exact fun h => ⟨names, rfl, h⟩
    · rintro ⟨_, ⟨⟩, h⟩
      exact h
  | error e =>
    constructor
    · exact fun h => absurd h List.not_mem_nil
    · rintro ⟨_, ⟨⟩, _⟩

private theorem query_of_mem (h : s ∈ orNothing (answer (.recentQueriesWithPrefix userId start limit) db).1) :
    ∃ row ∈ db.historyRows userId, row.query = s := by
  obtain ⟨queries, hqueries, hmem⟩ := mem_orNothing.1 h
  rw [Database.recentQueriesWithPrefix_eq] at hqueries
  split at hqueries
  · cases hqueries
  · obtain rfl := Except.ok.inj hqueries
    obtain ⟨row, hrow, hquery⟩ := Database.mem_ranked.1 (List.mem_of_mem_take hmem)
    exact ⟨row, List.mem_of_mem_filter hrow, hquery⟩

private theorem channel_of_mem (h : s ∈ orNothing (answer (.channelNamesWithPrefix start limit) db).1) :
    ∃ c ∈ db.channels.toList, c.name = s := by
  obtain ⟨names, hnames, hmem⟩ := mem_orNothing.1 h
  obtain rfl := Except.ok.inj (Database.mem_of_guardLookup hnames hmem)
  have hfound := List.mem_mergeSort.1 (List.mem_of_mem_take hmem)
  exact List.mem_map.1 (List.mem_of_mem_filter hfound)

private theorem user_of_mem (h : s ∈ orNothing (answer (.fullNamesContaining start limit) db).1) :
    ∃ u ∈ db.users.toList, Stored.trimSpaces u.rawName = s := by
  obtain ⟨names, hnames, hmem⟩ := mem_orNothing.1 h
  obtain rfl := Except.ok.inj (Database.mem_of_guardLookup hnames hmem)
  obtain ⟨raw, hraw, htrimmed⟩ := List.mem_map.1 (List.mem_mergeSort.1 (List.mem_of_mem_take hmem))
  obtain ⟨u, hu, rfl⟩ := List.mem_map.1 (List.mem_of_mem_filter hraw)
  exact ⟨u, hu, htrimmed⟩

/-- Everything suggested comes from one of the three sources. -/
private theorem isSource_of_mem_suggest {settings : SuggestionSettings}
    (h : s ∈ ((suggest settings userId start).run answer db).1) : IsSource db userId s := by
  unfold suggest at h
  split at h
  · cases h
  rcases List.mem_append.1 (List.mem_eraseDups.1 h) with h | h
  · rcases List.mem_append.1 h with h | h
    · obtain ⟨row, hrow, rfl⟩ := query_of_mem h
      exact .query hrow
    · obtain ⟨name, hname, rfl⟩ := List.mem_map.1 h
      obtain ⟨c, hc, rfl⟩ := channel_of_mem hname
      exact .channel hc
  · obtain ⟨name, hname, rfl⟩ := List.mem_map.1 h
    obtain ⟨u, hu, rfl⟩ := user_of_mem hname
    exact .user hu

/-! ### Read back -/

/-- Everything suggested is a query of the user's own, a channel or a full name.  A channel is read back as that channel
and nothing else when its name is one word with one quote at most and no sigil in front, and never otherwise; its name
leads to it when it has no capital letter outside ASCII.  A full name is read back on the same terms, so never when it
has two parts, and without such a letter it leads to its user when it is the username or the address in other
letter case, or the identifier, and never otherwise. -/
theorem suggested_read_back (hkeyed : db.Keyed) :
    (∀ (settings : SuggestionSettings) (userId start : String),
      ∀ s ∈ ((suggest settings userId start).run answer db).1, IsSource db userId s) ∧
    (∀ c ∈ db.channels.toList,
      ((ParsedQuery.ofText (ofChannel c.name)).base = "" ∧
        (ParsedQuery.ofText (ofChannel c.name)).operators.channels = [c.name] ↔ Query.Writable '#' c.name) ∧
      (Query.Writable '#' c.name →
        ParsedQuery.ofText (ofChannel c.name) = { base := "", operators := { channels := [c.name] } }) ∧
      (Text.NoForeignCapital c.name → db.LeadsToChannel c.name c.id)) ∧
    ∀ u ∈ db.users.toList, ∀ name, name = Stored.trimSpaces u.rawName →
      ((ParsedQuery.ofText (ofUser name)).base = "" ∧
        (ParsedQuery.ofText (ofUser name)).operators.senders = [name] ↔ Query.Writable '@' name) ∧
      (Query.Writable '@' name →
        ParsedQuery.ofText (ofUser name) = { base := "", operators := { senders := [name] } }) ∧
      ((∃ a ∈ u.firstName.toList, a ≠ ' ') → (∃ b ∈ u.lastName.toList, b ≠ ' ') → ¬Query.Writable '@' name) ∧
      (Text.NoForeignCapital name →
        (db.LeadsToUser name u.id ↔ Text.asciiLower name = Text.asciiLower u.username ∨
          Text.asciiLower name = Text.asciiLower u.email ∨ name = u.id)) := by
  refine ⟨fun settings userId start s => isSource_of_mem_suggest, fun c hc => ⟨ofChannel_read_back_iff,
    ofText_ofChannel, fun h => ?_⟩, ?_⟩
  · exact (Database.leadsToChannel_iff hkeyed hc).2 (.inl (Text.foldsTo_self_iff.2 h))
  · rintro u hu _ rfl
    refine ⟨ofUser_read_back_iff, ofText_ofUser, fun hfirst hlast => Stored.not_writable_fullName hfirst hlast '@',
      fun h => ?_⟩
    rw [Database.leadsToUser_iff hkeyed hu, h.foldsTo_iff, h.foldsTo_iff]

private def suggesting : Database where
  users := ⟨[⟨1, ⟨"u1", "dlane", "Devon", "Lane", "d@x", none, .integer 0, .text "2024-01-01 00:00:00"⟩⟩,
    ⟨2, ⟨"u2", "mono", "Mono", "", "mono@x", none, .integer 0, .text "2024-01-01 00:00:00"⟩⟩]⟩
  channels := ⟨[⟨1, ⟨"c1", "dev-notes", none, none, "public", .text "2024-01-01 00:00:00"⟩⟩]⟩

/-- A channel that is suggested is read back and leads home, and so does a user with one name that is the username. -/
theorem suggested_read_back_one_word :
    ParsedQuery.ofText "in:#dev-notes" = { base := "", operators := { channels := ["dev-notes"] } } ∧
      suggesting.LeadsToChannel "dev-notes" "c1" ∧
      ParsedQuery.ofText "from:@Mono" = { base := "", operators := { senders := ["Mono"] } } ∧
      suggesting.LeadsToUser "Mono" "u2" := by
  have hkeyed : suggesting.Keyed := ⟨by decide, by decide, by decide, by decide, by decide, by decide, by decide⟩
  obtain ⟨-, hchannels, husers⟩ := suggested_read_back hkeyed
  obtain ⟨-, hchannel, hleads⟩ := hchannels _ List.mem_cons_self
  obtain ⟨-, huser, -, hresolved⟩ := husers _ (List.mem_cons_of_mem _ List.mem_cons_self) "Mono" (by decide)
  exact ⟨hchannel (by decide), hleads (by decide), huser (by decide), (hresolved (by decide)).2 (.inl (by decide))⟩

/-- The full name of a user is suggested; the parser takes its first part for the user, and its second part for a word to
look for, and the name does not lead to the user. -/
theorem suggested_full_name_falls_apart :
    ((suggest {} "u1" "dev").run answer suggesting).1 = ["in:#dev-notes", "from:@Devon Lane"] ∧
      ParsedQuery.ofText "from:@Devon Lane" = { base := "Lane", operators := { senders := ["Devon"] } } ∧
      answer (.resolveUserIds ["Devon Lane"]) suggesting = (.ok [], suggesting) := by
  refine ⟨by decide +kernel, by decide_cbv, ?_⟩
  have hnone : suggesting.usersNamed ["Devon Lane"] = [] := by decide +kernel
  rw [Database.answer_resolveUserIds (by decide), hnone]

end Suggestion

end WorkspaceSearch
