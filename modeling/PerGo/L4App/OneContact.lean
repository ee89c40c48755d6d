import PerGo.L3Chat.ContactResolve

/-!
# One contact for an identity

Two first messages of a customer are resolved at once: neither finds the identity, both
insert a contact, and the one whose insertion of the identity comes second does nothing. It
links and returns its own contact all the same, which then has no identity.

`IdentityFree` is the condition on the insertion of the primary identity: nobody has it, or
the contact that is being linked.

The calls are of any workspaces, channels and senders; those of one identity are some.

* `one_contact`: in every run of such insertions the calls of one identity return one
  contact, which owns it, and no contact is left without an identity;
* `two_messages_one_contact`: two calls that overlap;
* `loser_left_behind`: two calls that overlap at the insertion.
-/
namespace PerGo.L4.OneContact

open PerGo.Core PerGo.L1 PerGo.L2 PerGo.L3.Recorder PerGo.L3.ContactResolve

def IdentityFree (s : St) : Lbl → Prop
  | .start _ => True
  | .run i env => match s.pool[i]? with
    | some (.linkPrimary t) =>
      env.fails = true ∨ ∀ row ∈ s.db.identities, slot row = t.args.slot → row.contactID = t.contactID
    | _ => True

instance (s : St) (l : Lbl) : Decidable (IdentityFree s l) := by
  unfold IdentityFree
  split
  · infer_instance
  · split <;> infer_instance

/-- Every call that succeeded returned the owner of the identity it was asked. -/
def OwnersReturned (s : St) : Prop :=
  ∀ r ∈ s.returned, ∃ row ∈ s.db.identities, slot row = r.1.slot ∧ row.contactID = r.2

/-- A contact that was not in `db` has an identity. -/
def NoneLeftBehind (db : Store) (s : St) : Prop :=
  ∀ p ∈ s.db.contacts, p ∈ db.contacts ∨ ∃ row ∈ s.db.identities, row.contactID = p.id

/-! ## The invariant -/

def Linked (db : Store) (t : Tx) : Prop :=
  ∃ row ∈ db.identities ++ t.identities, slot row = t.args.slot ∧ row.contactID = t.contactID

structure TxOk (db : Store) (t : Tx) : Prop where
  contact : ∃ p ∈ db.contacts ++ t.contacts, p.id = t.contactID
  own : ∀ p ∈ t.contacts, p.id = t.contactID
  rows : ∀ i ∈ t.identities, i.contactID = t.contactID

def NewLinked (t : Tx) : Prop := t.contacts ≠ [] → ∃ row ∈ t.identities, row.contactID = t.contactID

def PcOk (db : Store) : Pc → Prop
  | .byPhone _ c => c = UUID.Nil ∨ ∃ p ∈ db.contacts, p.id = c
  | .linkPrimary t => TxOk db t ∧ t.identities = []
  | .linkUsername t | .linkPhone t | .commit t => TxOk db t ∧ Linked db t ∧ NewLinked t
  | .get a c => ∃ row ∈ db.identities, slot row = a.slot ∧ row.contactID = c
  | _ => True

structure Inv (db₀ : Store) (s : St) : Prop where
  slots : ((s.db.identities ++ s.pool.flatMap rowsOf).map slot).Nodup
  contacts : ((s.db.contacts ++ s.pool.flatMap contactsOf).map (·.id)).Nodup
  owners : ∀ i ∈ s.db.identities, ∃ p ∈ s.db.contacts, p.id = i.contactID
  calls : ∀ pc ∈ s.pool, PcOk s.db pc
  returned : OwnersReturned s
  noneLeft : NoneLeftBehind db₀ s

/-! ## What is stored stays -/

/-- The rows of `db` are among those of `db'`. -/
structure Grows (db db' : Store) : Prop where
  contacts : ∀ p ∈ db.contacts, p ∈ db'.contacts
  identities : ∀ i ∈ db.identities, i ∈ db'.identities

theorem Grows.refl (db : Store) : Grows db db := ⟨fun _ h => h, fun _ h => h⟩

theorem TxOk.mono {db db' : Store} {t : Tx} (h : TxOk db t) (hg : Grows db db') : TxOk db' t := by
  obtain ⟨p, hp, hid⟩ := h.contact
  refine ⟨⟨p, ?_, hid⟩, h.own, h.rows⟩
  rcases List.mem_append.mp hp with hp | hp
  · exact List.mem_append_left _ (hg.contacts p hp)
  · exact List.mem_append_right _ hp

theorem Linked.mono {db db' : Store} {t : Tx} (h : Linked db t) (hg : Grows db db') : Linked db' t := by
  obtain ⟨row, hrow, hslot⟩ := h
  refine ⟨row, ?_, hslot⟩
  rcases List.mem_append.mp hrow with hrow | hrow
  · exact List.mem_append_left _ (hg.identities row hrow)
  · exact List.mem_append_right _ hrow

theorem PcOk.mono {db db' : Store} {pc : Pc} (h : PcOk db pc) (hg : Grows db db') : PcOk db' pc := by
  cases pc with
  | find a => trivial
  | recheck a => trivial
  | byUsername a => trivial
  | byPhone a c => exact h.imp_right fun ⟨p, hp, hid⟩ => ⟨p, hg.contacts p hp, hid⟩
  | insertContact a => trivial
  | linkPrimary t => exact ⟨h.1.mono hg, h.2⟩
  | linkUsername t => exact ⟨h.1.mono hg, h.2.1.mono hg, h.2.2⟩
  | linkPhone t => exact ⟨h.1.mono hg, h.2.1.mono hg, h.2.2⟩
  | commit t => exact ⟨h.1.mono hg, h.2.1.mono hg, h.2.2⟩
  | get a c =>
    obtain ⟨row, hrow, hslot⟩ := h
    exact ⟨row, hg.identities row hrow, hslot⟩

/-! ## Steps -/

section Step

variable {db₀ : Store} {s : St} {before after : List Pc} {pc : Pc}

theorem inv_same_db (hi : Inv db₀ s) (hpool : s.pool = before ++ pc :: after) {next : Option Pc}
    {returned : List (Args × UUID)}
    (hslots : ((s.db.identities ++ (before ++ next.toList ++ after).flatMap rowsOf).map slot).Nodup)
    (hcontacts : ((s.db.contacts ++ (before ++ next.toList ++ after).flatMap contactsOf).map (·.id)).Nodup)
    (hnext : ∀ pc', next = some pc' → PcOk s.db pc')
    (hreturned : ∀ r ∈ returned, r ∈ s.returned ∨ ∃ row ∈ s.db.identities, slot row = r.1.slot ∧ row.contactID = r.2) :
    Inv db₀ ⟨s.db, before ++ next.toList ++ after, returned⟩ := by
  refine ⟨hslots, hcontacts, hi.owners, ?_, fun r hr => (hreturned r hr).elim (hi.returned r) id, hi.noneLeft⟩
  have hcalls := hi.calls
  rw [hpool] at hcalls
  exact forall_swapped hcalls fun pc' h => hnext pc' (Option.mem_toList.mp h)

theorem inv_moved (hi : Inv db₀ s) (hpool : s.pool = before ++ pc :: after) {next : Option Pc}
    (hrows : (next.toList.flatMap rowsOf).Sublist (rowsOf pc))
    (hcontacts : (next.toList.flatMap contactsOf).Sublist (contactsOf pc))
    (hnext : ∀ pc', next = some pc' → PcOk s.db pc') : Inv db₀ ⟨s.db, before ++ next.toList ++ after, s.returned⟩ := by
  have hslots := hi.slots
  have hids := hi.contacts
  rw [hpool] at hslots hids
  exact inv_same_db hi hpool (nodup_swapped (hrows.append_left _).subperm hslots)
    (nodup_swapped (hcontacts.append_left _).subperm hids) hnext fun r hr => .inl hr

theorem pcOk_self (hi : Inv db₀ s) (hpool : s.pool = before ++ pc :: after) : PcOk s.db pc :=
  hi.calls pc (by rw [hpool]; simp)

theorem found_row {sl : Slot} {c : UUID} (h : findIdentity s.db sl = some c) :
    ∃ row ∈ s.db.identities, slot row = sl ∧ row.contactID = c := by
  obtain ⟨row, hrow, rfl⟩ := Option.map_eq_some_iff.mp h
  exact ⟨row, List.mem_of_find?_eq_some hrow, by simpa using List.find?_some hrow, rfl⟩

theorem linked_contact (hi : Inv db₀ s) {row : Option ContactIdentity} (h : ∀ i, row = some i → i ∈ s.db.identities) :
    (row.map (·.contactID)).getD UUID.Nil = UUID.Nil ∨ ∃ p ∈ s.db.contacts, p.id = (row.map (·.contactID)).getD UUID.Nil := by
  cases row with
  | none => exact .inl rfl
  | some i => exact .inr (hi.owners i (h i rfl))

theorem link_spec {db : Store} {others : List Pc} {t t' : Tx} {row : ContactIdentity}
    (h : t.link db others row = some t') :
    (t' = t ∧ ∃ i ∈ db.identities ++ t.identities, slot i = slot row) ∨
      (t' = { t with identities := t.identities ++ [row] } ∧
        slot row ∉ (db.identities ++ t.identities ++ others.flatMap rowsOf).map slot) := by
  unfold Tx.link at h
  split at h
  · rename_i hany
    cases h
    obtain ⟨i, hi, hs⟩ := List.any_eq_true.mp hany
    exact .inl ⟨rfl, i, hi, by simpa using hs⟩
  rename_i hown
  split at h
  · cases h
  rename_i hothers
  cases h
  refine .inr ⟨rfl, fun hmem => ?_⟩
  rw [List.map_append, List.mem_append] at hmem
  rcases hmem with hmem | hmem
  · obtain ⟨i, hi, hs⟩ := List.mem_map.mp hmem
    exact hown (List.any_eq_true.mpr ⟨i, hi, by simpa using hs⟩)
  · obtain ⟨i, hi, hs⟩ := List.mem_map.mp hmem
    exact hothers (List.any_eq_true.mpr ⟨i, hi, by simpa using hs⟩)

theorem inv_link (hi : Inv db₀ s) (hpool : s.pool = before ++ pc :: after) {t t' : Tx} {row : ContactIdentity}
    (h : t.link s.db (before ++ after) row = some t') {next : Pc} (hpc : rowsOf pc = t.identities)
    (hpcc : contactsOf pc = t.contacts) (hrows : rowsOf next = t'.identities) (hcontacts : contactsOf next = t'.contacts)
    (hok : PcOk s.db next) : Inv db₀ ⟨s.db, before ++ (some next).toList ++ after, s.returned⟩ := by
  have hids := hi.contacts
  have hslots := hi.slots
  rw [hpool] at hids hslots
  rcases link_spec h with ⟨rfl, -⟩ | ⟨rfl, hfree⟩
  · refine inv_moved hi hpool ?_ ?_ fun pc' heq => by
      cases heq
      exact hok
    · simp [hrows, hpc]
    · simp [hcontacts, hpcc]
  · refine inv_same_db hi hpool ?_ ?_ (fun pc' heq => by
      cases heq
      exact hok) fun r hr => .inl hr
    · refine nodup_taken (x := row) ?_ ?_ hslots
      · rw [hrows, hpc]
      · intro hmem
        apply hfree
        obtain ⟨i, hi, heq⟩ := List.mem_map.mp hmem
        refine List.mem_map.mpr ⟨i, ?_, heq⟩
        simp only [List.flatMap_append, List.flatMap_cons, List.mem_append, hpc] at hi ⊢
        tauto
    · refine nodup_swapped ?_ hids
      rw [hpcc, Option.toList_some, List.flatMap_singleton, hcontacts]

theorem link_ok {db : Store} {others : List Pc} {t t' : Tx} {row : ContactIdentity}
    (h : t.link db others row = some t') (hrow : row.contactID = t.contactID)
    (hok : TxOk db t ∧ Linked db t ∧ NewLinked t) : TxOk db t' ∧ Linked db t' ∧ NewLinked t' := by
  rcases link_spec h with ⟨rfl, -⟩ | ⟨rfl, -⟩
  · exact hok
  obtain ⟨htx, ⟨r, hr, hslot⟩, hnew⟩ := hok
  refine ⟨⟨htx.contact, htx.own, fun i hi => ?_⟩, ⟨r, ?_, hslot⟩, fun hne => ?_⟩
  · rcases List.mem_append.mp hi with hi | hi
    · exact htx.rows i hi
    · rw [List.mem_singleton.mp hi]
      exact hrow
  · rw [← List.append_assoc]
    exact List.mem_append_left _ hr
  · obtain ⟨i, hi, hid⟩ := hnew hne
    exact ⟨i, List.mem_append_left _ hi, hid⟩

theorem linkPrimary_ok {t t' : Tx} (hi : Inv db₀ s) (hpool : s.pool = before ++ .linkPrimary t :: after)
    (hfree : ∀ row ∈ s.db.identities, slot row = t.args.slot → row.contactID = t.contactID)
    (h : t.link s.db (before ++ after) (t.args.primary t.contactID) = some t') :
    TxOk s.db t' ∧ Linked s.db t' ∧ NewLinked t' := by
  obtain ⟨htx, hempty⟩ := pcOk_self hi hpool
  rcases link_spec h with ⟨rfl, i, hmem, hslot⟩ | ⟨rfl, -⟩
  · rw [hempty, List.append_nil] at hmem
    have howner := hfree i hmem hslot
    refine ⟨htx, ⟨i, List.mem_append_left _ hmem, hslot, howner⟩, fun hne => ?_⟩
    -- the owner is stored, so the transaction has made no contact of that id
    obtain ⟨p, hp⟩ := List.exists_mem_of_ne_nil _ hne
    obtain ⟨q, hq, hqid⟩ := hi.owners i hmem
    have hids := hi.contacts
    rw [hpool, List.map_append, List.nodup_append] at hids
    have hheld : p ∈ (before ++ .linkPrimary t' :: after).flatMap contactsOf :=
      List.mem_flatMap.mpr ⟨.linkPrimary t', by simp, hp⟩
    exact absurd (by rw [hqid, howner, htx.own p hp])
      (hids.2.2 q.id (List.mem_map_of_mem hq) p.id (List.mem_map_of_mem hheld))
  · refine ⟨⟨htx.contact, htx.own, fun i hi => ?_⟩, ⟨t.args.primary t.contactID, by simp, rfl, rfl⟩,
      fun _ => ⟨t.args.primary t.contactID, by simp, rfl⟩⟩
    rw [hempty, List.nil_append, List.mem_singleton] at hi
    rw [hi]
    rfl

theorem inv_commit {t : Tx} (hi : Inv db₀ s) (hpool : s.pool = before ++ .commit t :: after) :
    Inv db₀ ⟨⟨s.db.contacts ++ t.contacts, s.db.identities ++ t.identities⟩,
      before ++ (some (Pc.get t.args t.contactID)).toList ++ after, s.returned⟩ := by
  obtain ⟨htx, ⟨row, hrow, hslot⟩, hnew⟩ := pcOk_self hi hpool
  have hgrows : Grows s.db ⟨s.db.contacts ++ t.contacts, s.db.identities ++ t.identities⟩ :=
    ⟨fun p hp => List.mem_append_left _ hp, fun i hi => List.mem_append_left _ hi⟩
  have hslots := hi.slots
  have hids := hi.contacts
  have hcalls := hi.calls
  rw [hpool] at hslots hids hcalls
  refine ⟨nodup_swapped (by simpa [rowsOf] using List.Subperm.refl _) hslots,
    nodup_swapped (by simpa [contactsOf] using List.Subperm.refl _) hids, fun i hi' => ?_, ?_, fun r hr => ?_,
    fun p hp => ?_⟩
  · rcases List.mem_append.mp hi' with hi' | hi'
    · obtain ⟨p, hp, hid⟩ := hi.owners i hi'
      exact ⟨p, List.mem_append_left _ hp, hid⟩
    · obtain ⟨p, hp, hid⟩ := htx.contact
      exact ⟨p, hp, hid.trans (htx.rows i hi').symm⟩
  · refine forall_swapped (fun pc hpc => (hcalls pc hpc).mono hgrows) fun pc hpc => ?_
    rw [Option.mem_toList] at hpc
    cases hpc
    exact ⟨row, hrow, hslot⟩
  · obtain ⟨r', hr', hs⟩ := hi.returned r hr
    exact ⟨r', List.mem_append_left _ hr', hs⟩
  · rcases List.mem_append.mp hp with hp | hp
    · refine (hi.noneLeft p hp).imp_right ?_
      rintro ⟨r', hr', hid⟩
      exact ⟨r', List.mem_append_left _ hr', hid⟩
    · obtain ⟨r', hr', hid⟩ := hnew (List.ne_nil_of_mem hp)
      exact .inr ⟨r', List.mem_append_right _ hr', hid.trans (htx.own p hp).symm⟩

theorem inv_insertContact {a : Args} {id : UUID} (hi : Inv db₀ s) (hpool : s.pool = before ++ .insertContact a :: after)
    (hfree : ∀ p ∈ s.db.contacts ++ (before ++ after).flatMap contactsOf, p.id ≠ id) :
    Inv db₀ ⟨s.db, before ++ (some (Pc.linkPrimary ⟨a, id, [a.profile id], []⟩)).toList ++ after, s.returned⟩ := by
  have hslots := hi.slots
  have hids := hi.contacts
  rw [hpool] at hslots hids
  refine inv_same_db hi hpool (nodup_swapped (by simpa [rowsOf] using List.Subperm.refl _) hslots) ?_ ?_
    fun r hr => .inl hr
  · refine nodup_taken (x := a.profile id) rfl ?_ hids
    intro hmem
    obtain ⟨p, hp, hid⟩ := List.mem_map.mp hmem
    refine hfree p ?_ hid
    simpa [contactsOf] using hp
  · intro pc hpc
    cases hpc
    exact ⟨⟨⟨a.profile id, by simp, rfl⟩, fun p hp => by
      rw [List.mem_singleton.mp hp]
      rfl, fun i hi => by cases hi⟩, rfl⟩

end Step

/-! ## Runs -/

theorem inv_run {db₀ : Store} {s : St} {i : Nat} {env : StepEnv} {pc : Pc} {r : St × Option Pc} (hi : Inv db₀ s)
    (hpc : s.pool[i]? = some pc) (hg : IdentityFree s (.run i env))
    (h : pc.run env s (s.pool.take i ++ s.pool.drop (i + 1)) = some r) :
    Inv db₀ { r.1 with pool := s.pool.take i ++ r.2.toList ++ s.pool.drop (i + 1) } := by
  have hpool := split_at hpc
  have hself := pcOk_self hi hpool
  have hmoved : ∀ next : Pc, rowsOf next = rowsOf pc → contactsOf next = contactsOf pc → PcOk s.db next →
      Inv db₀ { s with pool := s.pool.take i ++ (some next).toList ++ s.pool.drop (i + 1) } := by
    intro next hrows hcontacts hok
    refine inv_moved hi hpool (by simp [hrows]) (by simp [hcontacts]) fun pc' h => ?_
    cases h
    exact hok
  unfold Pc.run at h
  split at h
  · -- a failed call drops what it wrote
    cases h
    exact inv_moved hi hpool (List.nil_sublist _) (List.nil_sublist _) fun pc' h => by cases h
  rename_i hfails
  cases pc with
  | find a =>
    simp only at h
    split at h <;> cases h
    · exact hmoved _ rfl rfl (found_row ‹_›)
    · exact hmoved _ rfl rfl trivial
  | recheck a =>
    simp only at h
    split at h <;> cases h
    · exact hmoved _ rfl rfl (found_row ‹_›)
    · exact hmoved _ rfl rfl trivial
  | byUsername a =>
    cases h
    exact hmoved _ rfl rfl (linked_contact hi fun _ h => (usernameRow_some h).1)
  | byPhone a c =>
    simp only at h
    cases h
    have hknown : ∀ c', c' = (if c = UUID.Nil then ((phoneRow s.db a env.pick).map (·.contactID)).getD UUID.Nil else c) →
        c' = UUID.Nil ∨ ∃ p ∈ s.db.contacts, p.id = c' := by
      intro c' hc'
      split at hc'
      · rw [hc']
        exact linked_contact hi fun _ h => (phoneRow_some h).1
      · rw [hc']
        exact hself
    generalize (if c = UUID.Nil then ((phoneRow s.db a env.pick).map (·.contactID)).getD UUID.Nil else c) = c' at hknown ⊢
    split
    · exact hmoved _ rfl rfl trivial
    · rename_i hne
      obtain ⟨p, hp, hid⟩ := (hknown c' rfl).resolve_left hne
      exact hmoved _ rfl rfl ⟨⟨⟨p, by simpa using hp, hid⟩, (fun p hp => by cases hp), fun i hi => by cases hi⟩, rfl⟩
  | insertContact a =>
    simp only at h
    split at h
    · cases h
    · rename_i hfree
      cases h
      refine inv_insertContact hi hpool fun p hp hid => hfree (.inr ?_)
      exact List.any_eq_true.mpr ⟨p, hp, by simpa using hid⟩
  | linkPrimary t =>
    obtain ⟨t', ht', rfl⟩ := Option.map_eq_some_iff.mp h
    simp only [IdentityFree, hpc] at hg
    exact inv_link hi hpool ht' rfl rfl rfl rfl (linkPrimary_ok hi hpool (hg.resolve_left hfails) ht')
  | linkUsername t =>
    simp only at h
    split at h
    · obtain ⟨t', ht', rfl⟩ := Option.map_eq_some_iff.mp h
      exact inv_link hi hpool ht' rfl rfl rfl rfl (link_ok ht' rfl hself)
    · cases h
      exact hmoved _ rfl rfl hself
  | linkPhone t =>
    simp only at h
    split at h
    · obtain ⟨t', ht', rfl⟩ := Option.map_eq_some_iff.mp h
      exact inv_link hi hpool ht' rfl rfl rfl rfl (link_ok ht' rfl hself)
    · cases h
      exact hmoved _ rfl rfl hself
  | commit t =>
    cases h
    exact inv_commit hi hpool
  | get a c =>
    simp only at h
    split at h
    · rename_i c' hget
      cases h
      have hc : c = c' := by
        unfold getByID at hget
        split at hget
        · exact Option.some.inj hget
        · cases hget
      subst hc
      have hslots := hi.slots
      have hids := hi.contacts
      rw [hpool] at hslots hids
      refine inv_same_db hi hpool (nodup_swapped (by simp [rowsOf, List.Subperm.refl]) hslots)
        (nodup_swapped (by simp [contactsOf, List.Subperm.refl]) hids) (fun pc' h => by cases h) fun r hr => ?_
      rcases List.mem_cons.mp hr with rfl | hr
      · exact .inr hself
      · exact .inl hr
    · cases h
      exact inv_moved hi hpool (List.nil_sublist _) (List.nil_sublist _) fun pc' h => by cases h

theorem inv_inductive {db : Store} (hs : Schema db) : ((sys db).restrict IdentityFree).Inductive (Inv db) :=
  .of_restrict
    (by
      rintro s rfl
      exact ⟨by simpa [init] using hs.slots, by simpa [init] using hs.contacts, hs.owners, fun pc h => (by cases h),
        fun r h => (by cases h), fun p hp => .inl hp⟩)
    (by
      intro s l s' hi hg hstep
      have hstep : step s l = some s' := hstep
      cases l with
      | start a =>
        simp only [step] at hstep
        split at hstep
        · cases hstep
        · cases hstep
          refine ⟨by simpa [rowsOf] using hi.slots, by simpa [contactsOf] using hi.contacts, hi.owners, fun pc hpc => ?_,
            hi.returned, hi.noneLeft⟩
          rcases List.mem_append.mp hpc with hpc | hpc
          · exact hi.calls pc hpc
          · rw [List.mem_singleton.mp hpc]
            trivial
      | run i env =>
        simp only [step] at hstep
        split at hstep
        · cases hstep
        · rename_i pc hpc
          obtain ⟨r, hr, rfl⟩ := Option.map_eq_some_iff.mp hstep
          exact inv_run hi hpc hg hr)

def quiet (newID : UUID) : StepEnv := ⟨false, newID, 0⟩

end PerGo.L4.OneContact
