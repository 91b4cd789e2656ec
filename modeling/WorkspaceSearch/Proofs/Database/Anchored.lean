import WorkspaceSearch.Proofs.Database.Unique

/-!
# Messages have channels and senders

Every message is in a channel that is there, and of a user who is there (`Anchored`).  With unique keys every message
then stands in its place exactly once (`map_message_messagesInPlace`), and the same holds of any rows that refer to two
others (`map_fst_join_join_of_refers`).
-/

namespace WorkspaceSearch.Database

/-- Every message is in a channel that is there, and of a user who is there. -/
structure Anchored (db : Database) : Prop where
  channels : ∀ m ∈ db.messages.toList, db.hasChannel m.channelId = true
  senders : ∀ m ∈ db.messages.toList, db.hasUser m.senderId = true

/-! ### Rows in their places -/

section

variable {A B : Type} {refers : A → B → Bool} {bs : List B}

private theorem length_le_length_join {as : List A} (h : ∀ a ∈ as, ∃ b ∈ bs, refers a b = true) :
    as.length ≤ (join as bs refers).length := by
  induction as with
  | nil => simp
  | cons a as ih =>
    obtain ⟨b, hb, hr⟩ := h a List.mem_cons_self
    have hfirst : 0 < (bs.filter (refers a)).length := List.length_pos_of_mem (List.mem_filter.2 ⟨hb, hr⟩)
    have hrest := ih fun c hc => h c (List.mem_cons_of_mem a hc)
    simp only [join] at hrest ⊢
    rw [List.flatMap_cons, List.length_append, List.length_map, List.length_cons]
    omega

private theorem map_fst_join_of_refers {key : B → String} (hb : (bs.map key).Nodup) {ref : A → String} {as : List A}
    (h : ∀ a ∈ as, (bs.any fun b => key b = ref a) = true) :
    (join as bs fun a b => key b = ref a).map Prod.fst = as := by
  refine (map_fst_join hb (fun _ _ _ h h' => ?_) as).eq_of_length_le ?_
  · exact (of_decide_eq_true h).trans (of_decide_eq_true h').symm
  · rw [List.length_map]
    exact length_le_length_join fun a ha => List.any_eq_true.1 (h a ha)

end

/-- Rows that refer to two others, which are there under unique keys, stand with these exactly once. -/
theorem map_fst_join_join_of_refers {A B C : Type} {as : List A} {bs : List B} {cs : List C} {keyB : B → String}
    {keyC : C → String} (hb : (bs.map keyB).Nodup) (hc : (cs.map keyC).Nodup) {refB refC : A → String}
    (hrefB : ∀ a ∈ as, (bs.any fun b => keyB b = refB a) = true)
    (hrefC : ∀ a ∈ as, (cs.any fun c => keyC c = refC a) = true) :
    (join (join as bs fun a b => keyB b = refB a) cs fun x c => keyC c = refC x.1).map (·.1.1) = as := by
  have hfirst := map_fst_join_of_refers hb hrefB
  have hthere : ∀ x ∈ join as bs fun a b => keyB b = refB a, (cs.any fun c => keyC c = refC x.1) = true :=
    fun x hx => hrefC x.1 (hfirst ▸ List.mem_map_of_mem hx)
  have hsecond := map_fst_join_of_refers hc hthere
  have hboth := congrArg (List.map Prod.fst) hsecond
  rwa [hfirst, List.map_map] at hboth

/-- Every message stands in its place exactly once. -/
theorem map_message_messagesInPlace {db : Database} (hkeyed : db.Keyed) (hanchored : db.Anchored) :
    db.messagesInPlace.map (·.1.1) = db.messages.toList :=
  map_fst_join_join_of_refers hkeyed.channels hkeyed.users hanchored.channels hanchored.senders

end WorkspaceSearch.Database
