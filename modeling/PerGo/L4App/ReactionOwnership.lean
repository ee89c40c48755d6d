import PerGo.L3Chat.React

/-!
# Whose reactions a call touches

`MutateReaction` (repository/chat.go:767-914) on the reactions of one message, for a
caller with a name. A reaction is its emoji and its sender (`pairs`).

* `mutated_nodup`: no pair comes twice.
* `mutated_others`: of the others' reactions the call takes exactly those of `takesBack`. The
  operator is who reacts without a name, so anyone takes the operator's reaction back by toggling
  or removing the same emoji, and the operator removes everyone's.
* `toggled_twice`: two toggles undo each other unless the first took the operator's.
* `reactions_of_others`: the three of them for the row that a call finds and writes.
-/
namespace PerGo.L4.ReactionOwnership

open PerGo.Core PerGo.L1 PerGo.L2 PerGo.L3.React

def pairs (reactions : List Reaction) : List (String × String) := reactions.map fun r => (r.emoji, r.sender)

def Toggles (action : String) : Prop := action = "" ∨ action = "toggle"

def takesBack (emoji s action : String) (r : Reaction) : Bool :=
  if action = "add" then false
  else if action = "remove" then
    if emoji = "" then s = "operator" else r.emoji = emoji && (s = "operator" || r.sender = "operator")
  else r.emoji = emoji && r.sender = "operator"

section Mutated

variable {reactions : List Reaction} {emoji s action : String} {now : Time}

theorem mem_pairs {p : String × String} : p ∈ pairs reactions ↔ ∃ r ∈ reactions, (r.emoji, r.sender) = p :=
  List.mem_map

theorem pairs_append (r : Reaction) : pairs (reactions ++ [r]) = pairs reactions ++ [(r.emoji, r.sender)] := by
  simp [pairs]

theorem nodup_append {r : Reaction} (h : (pairs reactions).Nodup) (hr : (r.emoji, r.sender) ∉ pairs reactions) :
    (pairs (reactions ++ [r])).Nodup := by
  rw [pairs_append]
  exact List.nodup_append'.mpr ⟨h, List.nodup_singleton _, List.disjoint_singleton.mpr hr⟩

theorem nodup_filter (h : (pairs reactions).Nodup) (p : Reaction → Bool) : (pairs (reactions.filter p)).Nodup :=
  h.sublist (List.filter_sublist.map _)

def own (emoji s : String) (r : Reaction) : Bool := r.emoji = emoji && (r.sender = s || r.sender = "operator")

theorem mutated_toggle (h : Toggles action) : (mutated reactions emoji s action now).2 =
    if reactions.any (own emoji s) then reactions.filter (!own emoji s ·) else reactions ++ [⟨emoji, s, now⟩] := by
  have h : action = "" ∨ action = "toggle" := h
  unfold mutated
  rw [if_pos h]
  exact apply_ite Prod.snd (reactions.any (own emoji s) = true) _ _

theorem mutated_add : (mutated reactions emoji s "add" now).2 =
    if (emoji, s) ∈ pairs reactions then reactions else reactions ++ [⟨emoji, s, now⟩] := by
  have hany : (reactions.any fun rx => rx.emoji = emoji && rx.sender = s) = true ↔ (emoji, s) ∈ pairs reactions := by
    simp [pairs]
  unfold mutated
  rw [if_neg (by decide), if_pos rfl]
  by_cases h : (emoji, s) ∈ pairs reactions
  · rw [if_pos (hany.mpr h), if_pos h]
  · rw [if_neg (fun hyes => h (hany.mp hyes)), if_neg h]

def removed (emoji s : String) (r : Reaction) : Bool :=
  if emoji = "" then r.sender = s || s = "operator"
  else r.emoji = emoji && (r.sender = s || s = "operator" || r.sender = "operator")

theorem mutated_remove : (mutated reactions emoji s "remove" now).2 = reactions.filter (!removed emoji s ·) := by
  unfold mutated
  rw [if_neg (by decide), if_neg (by decide)]
  rfl

theorem own_self (emoji s : String) (now : Time) : own emoji s ⟨emoji, s, now⟩ = true := by
  simp [own]

theorem not_mem_of_not_own (h : reactions.any (own emoji s) = false) : (emoji, s) ∉ pairs reactions := by
  intro hmem
  obtain ⟨r, hr, hpair⟩ := mem_pairs.mp hmem
  obtain ⟨rfl, rfl⟩ := Prod.mk.inj hpair
  have hno := List.any_eq_false.mp h r hr
  exact hno (own_self r.emoji r.sender r.createdAt)

theorem mutated_nodup (hact : action ∈ ["", "add", "remove", "toggle"]) (h : (pairs reactions).Nodup) :
    (pairs (mutated reactions emoji s action now).2).Nodup := by
  by_cases htoggle : Toggles action
  · rw [mutated_toggle htoggle]
    split
    · exact nodup_filter h _
    · rename_i hnone
      exact nodup_append h (not_mem_of_not_own (Bool.eq_false_iff.mpr hnone))
  · obtain rfl | rfl : action = "add" ∨ action = "remove" := by
      simp only [Toggles] at htoggle
      simp only [List.mem_cons, List.not_mem_nil, or_false] at hact
      tauto
    · rw [mutated_add]
      split
      · exact h
      · rename_i hnew
        exact nodup_append h hnew
    · rw [mutated_remove]
      exact nodup_filter h _

theorem others_filter {q : Reaction → Bool} (hq : ∀ r, r.sender ≠ s → q r = takesBack emoji s action r) :
    (reactions.filter (!q ·)).filter (fun r => r.sender ≠ s) =
      (reactions.filter fun r => r.sender ≠ s).filter (!takesBack emoji s action ·) := by
  rw [List.filter_filter, List.filter_filter]
  apply List.filter_congr
  intro r _
  by_cases hs : r.sender = s
  · simp [hs]
  · simp [hs, hq r hs]

theorem others_append : ((reactions ++ [Reaction.mk emoji s now]).filter fun r => r.sender ≠ s) =
    reactions.filter fun r => r.sender ≠ s := by
  simp

theorem mutated_others (hact : action ∈ ["", "add", "remove", "toggle"]) :
    ((mutated reactions emoji s action now).2.filter fun r => r.sender ≠ s) =
      (reactions.filter fun r => r.sender ≠ s).filter (!takesBack emoji s action ·) := by
  by_cases htoggle : Toggles action
  · have htakes : ∀ r, takesBack emoji s action r = (r.emoji = emoji && r.sender = "operator") := by
      intro r
      rcases htoggle with rfl | rfl <;> simp [takesBack]
    rw [mutated_toggle htoggle]
    split
    · apply others_filter
      intro r hr
      rw [htakes r]
      simp [own, hr]
    · rename_i hnone
      rw [others_append]
      symm
      apply List.filter_eq_self.mpr
      intro r hr
      have hno := List.any_eq_false.mp (Bool.eq_false_iff.mpr hnone) r (List.mem_filter.mp hr).1
      rw [htakes r]
      simp only [own, Bool.and_eq_true, Bool.or_eq_true, decide_eq_true_eq, not_and, not_or] at hno
      simp only [Bool.not_eq_true', Bool.and_eq_false_iff, decide_eq_false_iff_not]
      by_cases he : r.emoji = emoji
      · exact Or.inr (hno he).2
      · exact Or.inl he
  · obtain rfl | rfl : action = "add" ∨ action = "remove" := by
      simp only [Toggles] at htoggle
      simp only [List.mem_cons, List.not_mem_nil, or_false] at hact
      tauto
    · have hall : (reactions.filter fun r => r.sender ≠ s).filter (!takesBack emoji s "add" ·) =
          reactions.filter fun r => r.sender ≠ s := by
        apply List.filter_eq_self.mpr
        intro r _
        simp [takesBack]
      rw [mutated_add, hall]
      split
      · rfl
      · exact others_append
    · rw [mutated_remove]
      apply others_filter
      intro r hr
      by_cases he : emoji = ""
      · simp [removed, takesBack, he, hr]
      · simp [removed, takesBack, he, hr]

theorem mem_pairs_toggled (h : Toggles action) (p : String × String) :
    p ∈ pairs (mutated reactions emoji s action now).2 ↔
      if (emoji, s) ∈ pairs reactions ∨ (emoji, "operator") ∈ pairs reactions then
        p ∈ pairs reactions ∧ p ≠ (emoji, s) ∧ p ≠ (emoji, "operator")
      else p ∈ pairs reactions ∨ p = (emoji, s) := by
  have hany : reactions.any (own emoji s) = true ↔
      (emoji, s) ∈ pairs reactions ∨ (emoji, "operator") ∈ pairs reactions := by
    simp only [List.any_eq_true, mem_pairs, own, Bool.and_eq_true, Bool.or_eq_true, decide_eq_true_eq, Prod.mk.injEq]
    constructor
    · rintro ⟨r, hr, he, hs | hs⟩
      · exact Or.inl ⟨r, hr, he, hs⟩
      · exact Or.inr ⟨r, hr, he, hs⟩
    · rintro (⟨r, hr, he, hs⟩ | ⟨r, hr, he, hs⟩)
      · exact ⟨r, hr, he, Or.inl hs⟩
      · exact ⟨r, hr, he, Or.inr hs⟩
  rw [mutated_toggle h]
  by_cases hown : reactions.any (own emoji s) = true
  · rw [if_pos hown, if_pos (hany.mp hown)]
    obtain ⟨e, t⟩ := p
    simp only [mem_pairs, List.mem_filter, own, Prod.mk.injEq, ne_eq]
    constructor
    · rintro ⟨r, ⟨hr, hno⟩, rfl, rfl⟩
      simp only [Bool.not_eq_true', Bool.and_eq_false_iff, Bool.or_eq_false_iff, decide_eq_false_iff_not] at hno
      refine ⟨⟨r, hr, rfl, rfl⟩, ?_, ?_⟩
      · tauto
      · tauto
    · rintro ⟨⟨r, hr, rfl, rfl⟩, hs, hop⟩
      refine ⟨r, ⟨hr, ?_⟩, rfl, rfl⟩
      simp only [Bool.not_eq_true', Bool.and_eq_false_iff, Bool.or_eq_false_iff, decide_eq_false_iff_not]
      tauto
  · rw [if_neg hown, if_neg (fun hyes => hown (hany.mpr hyes)), pairs_append, List.mem_append, List.mem_singleton]

theorem toggled_twice {action' : String} {now' : Time} (h : Toggles action) (h' : Toggles action') :
    (∀ p, p ∈ pairs (mutated (mutated reactions emoji s action now).2 emoji s action' now').2 ↔ p ∈ pairs reactions) ↔
      s = "operator" ∨ (emoji, "operator") ∉ pairs reactions := by
  simp only [mem_pairs_toggled h', mem_pairs_toggled h]
  by_cases hown : (emoji, s) ∈ pairs reactions ∨ (emoji, "operator") ∈ pairs reactions
  · -- the first takes what is there, the second adds the caller's
    simp only [if_pos hown, ne_eq, not_true_eq_false, false_and, and_false, or_self, if_false]
    constructor
    · intro hall
      refine or_iff_not_imp_right.mpr fun hop => ?_
      rcases (hall (emoji, "operator")).mpr (not_not.mp hop) with ⟨-, -, hno⟩ | heq
      · exact absurd rfl hno
      · exact (Prod.mk.inj heq).2.symm
    · intro hcond p
      have hmine : (emoji, s) ∈ pairs reactions := by
        rcases hcond with rfl | hop
        · exact hown.elim id id
        · exact hown.resolve_right hop
      constructor
      · rintro (⟨hp, -, -⟩ | rfl)
        · exact hp
        · exact hmine
      · intro hp
        by_cases hps : p = (emoji, s)
        · exact Or.inr hps
        · refine Or.inl ⟨hp, hps, ?_⟩
          rintro rfl
          rcases hcond with rfl | hop
          · exact hps rfl
          · exact hop hp
  · -- the first adds the caller's, the second takes it
    obtain ⟨hmine, hop⟩ := not_or.mp hown
    simp only [if_neg hown, or_true, true_or, if_true]
    refine iff_of_true (fun p => ?_) (Or.inr hop)
    constructor
    · rintro ⟨hp | rfl, hne, -⟩
      · exact hp
      · exact absurd rfl hne
    · intro hp
      refine ⟨Or.inl hp, ?_, ?_⟩
      · rintro rfl
        exact hmine hp
      · rintro rfl
        exact hop hp

end Mutated

/-! ## The call -/

/-- The row that a call locks. -/
def messageRow (rows : List ChatMessage) (ws : UUID) (messageUID : String) : Option ChatMessage :=
  rows.find? fun m => m.workspaceID = ws && m.uid = trimSpace messageUID

/-- A call by someone with a name keeps the pairs apart, takes of the others' reactions what `takesBack` says, and
is undone by a second toggle unless it took the operator's reaction. -/
theorem reactions_of_others (rows rows' : List ChatMessage) (now : Time) (dbErr : Option String) (ws chatID : UUID)
    (messageUID emoji sender action resolved : String) (reactions : List Reaction) (hsender : trimSpace sender ≠ "")
    (h : mutateReaction rows now dbErr ws messageUID emoji sender action = .ok ((chatID, resolved, reactions), rows')) :
    ∃ m, messageRow rows ws messageUID = some m ∧
      messageRow rows' ws messageUID = some { m with reactions := reactions } ∧
      ((pairs m.reactions).Nodup → (pairs reactions).Nodup) ∧
      (reactions.filter fun r => r.sender ≠ trimSpace sender) =
        (m.reactions.filter fun r => r.sender ≠ trimSpace sender).filter
          (!takesBack emoji (trimSpace sender) (callAction emoji action) ·) ∧
      (emoji ≠ "" → Toggles (toLower (trimSpace action)) →
        ∀ now' dbErr' action' chatID' resolved' reactions' rows'', Toggles (toLower (trimSpace action')) →
          mutateReaction rows' now' dbErr' ws messageUID emoji sender action' =
            .ok ((chatID', resolved', reactions'), rows'') →
          ((∀ p, p ∈ pairs reactions' ↔ p ∈ pairs m.reactions) ↔
            trimSpace sender = "operator" ∨ (emoji, "operator") ∉ pairs m.reactions)) := by
  have hcaller : callSender sender = trimSpace sender := if_neg hsender
  obtain ⟨hvalid, m, hm, hmut, rfl⟩ := mutateReaction_ok h
  rw [hcaller] at hmut
  have hmut : reactions = (mutated m.reactions emoji (trimSpace sender) (callAction emoji action) now).2 :=
    congrArg Prod.snd hmut
  have hact : callAction emoji action ∈ ["", "add", "remove", "toggle"] := by
    unfold callAction
    split
    · decide
    · exact hvalid
  refine ⟨m, hm, find?_reactions hm reactions, ?_, ?_, ?_⟩
  · rw [hmut]
    exact mutated_nodup hact
  · rw [hmut]
    exact mutated_others hact
  · intro hemoji htoggle now' dbErr' action' chatID' resolved' reactions' rows'' htoggle' h'
    obtain ⟨-, m', hm', hmut', -⟩ := mutateReaction_ok h'
    rw [find?_reactions hm reactions] at hm'
    obtain rfl := Option.some.inj hm'
    rw [hcaller] at hmut'
    have hmut' : reactions' = (mutated reactions emoji (trimSpace sender) (callAction emoji action') now').2 :=
      congrArg Prod.snd hmut'
    have hcall : ∀ a, callAction emoji a = toLower (trimSpace a) := fun a => if_neg hemoji
    rw [hcall] at hmut hmut'
    rw [hmut', hmut]
    exact toggled_twice htoggle htoggle'

def liked : ChatMessage :=
  { id := 1, chatID := 7, workspaceID := 1, uid := "wamid.1", direction := .inbound, senderType := .contact,
    senderName := "", senderID := "", body := "", mediaURL := none, mediaType := none, isPrivate := false,
    reactions := [⟨"👍", "operator", second⟩, ⟨"👍", "alice@example.com", second⟩], replyToUID := none, metadata := [],
    createdAt := second }

def contact : String := "5511999990000"

/-- The contact's toggle takes the operator's thumbs-up and leaves Alice's; the next one is the contact's own. -/
theorem liked_toggled :
    mutateReaction [liked] (2 * second) none 1 "wamid.1" "👍" contact "toggle" =
        .ok ((7, "remove", [⟨"👍", "alice@example.com", second⟩]),
          [{ liked with reactions := [⟨"👍", "alice@example.com", second⟩] }]) ∧
      ([⟨"👍", "alice@example.com", second⟩] : List Reaction).filter (fun r => r.sender ≠ trimSpace contact) =
        (liked.reactions.filter fun r => r.sender ≠ trimSpace contact).filter
          (!takesBack "👍" (trimSpace contact) (callAction "👍" "toggle") ·) := by
  have hcall : mutateReaction [liked] (2 * second) none 1 "wamid.1" "👍" contact "toggle" =
      .ok ((7, "remove", [⟨"👍", "alice@example.com", second⟩]),
        [{ liked with reactions := [⟨"👍", "alice@example.com", second⟩] }]) := by
    decide +kernel
  refine ⟨hcall, ?_⟩
  obtain ⟨m, hm, -, -, hothers, -⟩ :=
    reactions_of_others [liked] _ (2 * second) none 1 7 "wamid.1" "👍" contact "toggle" _ _ (by decide +kernel) hcall
  have hrow : messageRow [liked] 1 "wamid.1" = some liked := by decide +kernel
  obtain rfl := Option.some.inj (hrow.symm.trans hm)
  exact hothers

/-- The operator's thumbs-up does not survive the toggle of a contact, and is not there after two. -/
theorem operator_taken :
    (pairs liked.reactions).Nodup ∧ trimSpace contact ≠ "" ∧
      ∃ reactions rows' reactions' rows'',
        mutateReaction [liked] (2 * second) none 1 "wamid.1" "👍" contact "toggle" =
          .ok ((7, "remove", reactions), rows') ∧
        mutateReaction rows' (3 * second) none 1 "wamid.1" "👍" contact "toggle" =
          .ok ((7, "add", reactions'), rows'') ∧
        (∃ r ∈ liked.reactions, r.sender ≠ trimSpace contact ∧ r ∉ reactions) ∧
        ¬ ∀ p, p ∈ pairs reactions' ↔ p ∈ pairs liked.reactions := by
  have hfirst : mutateReaction [liked] (2 * second) none 1 "wamid.1" "👍" contact "toggle" =
      .ok ((7, "remove", [⟨"👍", "alice@example.com", second⟩]),
        [{ liked with reactions := [⟨"👍", "alice@example.com", second⟩] }]) := by
    decide +kernel
  have hsecond : mutateReaction [{ liked with reactions := [⟨"👍", "alice@example.com", second⟩] }] (3 * second) none 1
      "wamid.1" "👍" contact "toggle" =
      .ok ((7, "add", [⟨"👍", "alice@example.com", second⟩, ⟨"👍", contact, 3 * second⟩]),
        [{ liked with reactions := [⟨"👍", "alice@example.com", second⟩, ⟨"👍", contact, 3 * second⟩] }]) := by
    decide +kernel
  refine ⟨by decide +kernel, by decide +kernel, _, _, _, _, hfirst, hsecond, ?_, ?_⟩
  · exact ⟨⟨"👍", "operator", second⟩, List.mem_cons_self, by decide +kernel, by decide +kernel⟩
  · intro hall
    have hlost := (hall ("👍", "operator")).mpr (by decide +kernel)
    revert hlost
    decide +kernel

end PerGo.L4.ReactionOwnership
