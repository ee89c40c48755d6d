import PerGo.L3Obs.RedactingHandler

/-!
# What the log shows of a secret

Two records that differ only under sensitive keys are written alike, and what lies under none is
written as it is. The handler looks at the keys of attributes and of groups that are values, but
not at the names of groups that `WithGroup` opens.

* `redactAttrs_of_agree`: redaction forgets what lies under a sensitive key.
* `lines_redactAttrs`: it keeps every other leaf at its place.
* `sealed_iff`: a handler lets nothing through exactly when none of its open groups is sensitive.
-/
namespace PerGo.L4.LogSecrets

open PerGo.L1 PerGo.L2 PerGo.L3.Obs

variable {α : Type}

/-! ## Values that differ under sensitive keys -/

mutual

inductive ValueAgree (sensitive : String → Bool) : Value α → Value α → Prop
  | leaf (a : Leaf α) : ValueAgree sensitive (.leaf a) (.leaf a)
  | group {as bs : List (Attr α)} : AttrsAgree sensitive as bs → ValueAgree sensitive (.group as) (.group bs)
  | valuer {v w : Value α} : ValueAgree sensitive v w → ValueAgree sensitive (.valuer v) (.valuer w)

inductive AttrsAgree (sensitive : String → Bool) : List (Attr α) → List (Attr α) → Prop
  | nil : AttrsAgree sensitive [] []
  | hidden {key : String} (v w : Value α) {as bs : List (Attr α)} :
      sensitive key = true → AttrsAgree sensitive as bs → AttrsAgree sensitive ((key, v) :: as) ((key, w) :: bs)
  | shown (key : String) {v w : Value α} {as bs : List (Attr α)} :
      ValueAgree sensitive v w → AttrsAgree sensitive as bs → AttrsAgree sensitive ((key, v) :: as) ((key, w) :: bs)

end

/-- Handlers that were built alike; `hot`: a sensitive group is open. -/
inductive OpsAgree (sensitive : String → Bool) : Bool → List (Op α) → List (Op α) → Prop
  | nil (hot : Bool) : OpsAgree sensitive hot [] []
  | withAttrs {hot : Bool} {as bs : List (Attr α)} {ops ops' : List (Op α)} :
      AttrsAgree (fun key => hot || sensitive key) as bs → OpsAgree sensitive hot ops ops' →
        OpsAgree sensitive hot (.withAttrs as :: ops) (.withAttrs bs :: ops')
  | withGroup {hot : Bool} (name : String) {ops ops' : List (Op α)} :
      OpsAgree sensitive (hot || sensitive name) ops ops' →
        OpsAgree sensitive hot (.withGroup name :: ops) (.withGroup name :: ops')

def openGroups : List (Op α) → List String
  | [] => []
  | .withAttrs _ :: ops => openGroups ops
  | .withGroup name :: ops => if name = "" then openGroups ops else name :: openGroups ops

structure RecordsAgree (sensitive : String → Bool) (r r' : Record α) : Prop where
  time : r.time = r'.time
  level : r.level = r'.level
  message : r.message = r'.message
  pc : r.pc = r'.pc
  attrs : AttrsAgree sensitive r.attrs r'.attrs

/-! ## The lines of a record -/

mutual

/-- The leaves of a value, each with the keys above it. -/
def valueLines (path : List String) : Nat → Value α → List (List String × Leaf α)
  | 0, _ => [(path, .tooManyLogValues)]
  | _ + 1, .leaf a => [(path, a)]
  | _ + 1, .group attrs => attrLines path attrs
  | n + 1, .valuer v => valueLines path n v

def attrLines (path : List String) : List (Attr α) → List (List String × Leaf α)
  | [] => []
  | (key, v) :: rest => valueLines (path ++ [key]) maxLogValues v ++ attrLines path rest

end

def lines (path : List String) : List (Op α) → Record α → List (List String × Leaf α)
  | [], r => attrLines path r.attrs
  | .withAttrs attrs :: ops, r => attrLines path attrs ++ lines path ops r
  | .withGroup name :: ops, r => lines (if name = "" then path else path ++ [name]) ops r

def visible (sensitive : String → Bool) (line : List String × Leaf α) : Bool := line.1.all fun key => !sensitive key

/-! ## Redaction -/

section Redaction

variable {sensitive : String → Bool}

mutual

theorem redactValue_of_agree {v w : Value α} (h : ValueAgree sensitive v w) (n : Nat) :
    redactValue sensitive n v = redactValue sensitive n w := by
  cases n with
  | zero => rw [redactValue, redactValue]
  | succ n =>
    cases h with
    | leaf a => rfl
    | group has => rw [redactValue, redactValue, redactAttrs_of_agree has]
    | valuer hv => rw [redactValue, redactValue, redactValue_of_agree hv n]

theorem redactAttrs_of_agree {as bs : List (Attr α)} (h : AttrsAgree sensitive as bs) :
    redactAttrs sensitive as = redactAttrs sensitive bs := by
  cases h with
  | nil => rfl
  | hidden v w hkey hrest => rw [redactAttrs, redactAttrs, if_pos hkey, if_pos hkey, redactAttrs_of_agree hrest]
  | shown key hv hrest =>
    rw [redactAttrs, redactAttrs, redactValue_of_agree hv maxLogValues, redactAttrs_of_agree hrest]

end

/-! Empty groups have no lines. -/

theorem attrLines_withoutEmptyGroups (path : List String) (attrs : List (Attr α)) :
    attrLines path (withoutEmptyGroups attrs) = attrLines path attrs := by
  induction attrs with
  | nil => rfl
  | cons a attrs ih =>
    obtain ⟨key, v⟩ := a
    have hcons : withoutEmptyGroups ((key, v) :: attrs) =
        if v.isEmptyGroup then withoutEmptyGroups attrs else (key, v) :: withoutEmptyGroups attrs := by
      unfold withoutEmptyGroups
      rw [List.filter_cons]
      cases v.isEmptyGroup <;> rfl
    rw [hcons, attrLines]
    by_cases hv : v.isEmptyGroup = true
    · have hempty : v = .group [] := by
        unfold Value.isEmptyGroup at hv
        split at hv
        · rfl
        · cases hv
      rw [if_pos hv, ih, hempty]
      rfl
    · rw [if_neg hv, attrLines, ih]

mutual

theorem valueLines_hidden {path : List String} (h : ∃ key ∈ path, sensitive key = true) :
    ∀ (n : Nat) (v : Value α), (valueLines path n v).filter (visible sensitive) = []
  | 0, _ => by
    rw [valueLines]
    simpa [visible] using h
  | _ + 1, .leaf a => by
    rw [valueLines]
    simpa [visible] using h
  | _ + 1, .group attrs => by
    rw [valueLines]
    exact attrLines_hidden h attrs
  | n + 1, .valuer v => by
    rw [valueLines]
    exact valueLines_hidden h n v

theorem attrLines_hidden {path : List String} (h : ∃ key ∈ path, sensitive key = true) :
    ∀ attrs : List (Attr α), (attrLines path attrs).filter (visible sensitive) = []
  | [] => rfl
  | (key, v) :: rest => by
    obtain ⟨top, hmem, htop⟩ := h
    have hpath : ∃ key' ∈ path ++ [key], sensitive key' = true := ⟨top, List.mem_append_left _ hmem, htop⟩
    rw [attrLines, List.filter_append, valueLines_hidden hpath, attrLines_hidden ⟨top, hmem, htop⟩ rest]
    rfl

end

mutual

theorem lines_redactValue (path : List String) (m : Nat) :
    ∀ (n : Nat) (v : Value α),
      (valueLines path (m + 1) (redactValue sensitive n v)).filter (visible sensitive) =
        (valueLines path n v).filter (visible sensitive)
  | 0, _ => by rw [redactValue, valueLines, valueLines]
  | _ + 1, .leaf a => by rw [redactValue, valueLines, valueLines]
  | _ + 1, .group attrs => by
    rw [redactValue, valueLines, valueLines, attrLines_withoutEmptyGroups]
    exact lines_redactAttrs path attrs
  | n + 1, .valuer v => by
    rw [redactValue, valueLines]
    exact lines_redactValue path m n v

theorem lines_redactAttrs (path : List String) :
    ∀ attrs : List (Attr α),
      (attrLines path (redactAttrs sensitive attrs)).filter (visible sensitive) =
        (attrLines path attrs).filter (visible sensitive)
  | [] => by rw [redactAttrs]
  | (key, v) :: rest => by
    rw [redactAttrs]
    by_cases hkey : sensitive key = true
    · have hpath : ∃ key' ∈ path ++ [key], sensitive key' = true := ⟨key, by simp, hkey⟩
      rw [if_pos hkey, attrLines, attrLines, List.filter_append, List.filter_append, valueLines_hidden hpath,
        valueLines_hidden hpath, lines_redactAttrs path rest]
    · rw [if_neg hkey, attrLines, attrLines, List.filter_append, List.filter_append, lines_redactAttrs path rest]
      exact congrArg (· ++ _) (lines_redactValue (path ++ [key]) 99 maxLogValues v)

end

end Redaction

/-! ## The handler -/

/-- What a call adds to the calls of the wrapped handler. -/
def forwarded (sensitive : String → Bool) : Op α → List (Op α)
  | .withAttrs attrs => if attrs.length = 0 then [] else [.withAttrs (attrs.map (redactAttr sensitive))]
  | .withGroup name => if name = "" then [] else [.withGroup name]

theorem apply_eq (h : RedactingHandler α) (op : Op α) :
    h.apply op = { h with handler := h.handler ++ forwarded h.isSensitive op } := by
  cases op with
  | withAttrs attrs =>
    rw [RedactingHandler.apply, RedactingHandler.withAttrs, forwarded]
    by_cases hnone : attrs.length = 0
    · rw [if_pos hnone, if_pos hnone, List.append_nil]
    · rw [if_neg hnone, if_neg hnone]
  | withGroup name =>
    rw [RedactingHandler.apply, RedactingHandler.withGroup, forwarded]
    by_cases hname : name = ""
    · rw [if_pos hname, if_pos hname, List.append_nil]
    · rw [if_neg hname, if_neg hname]

theorem build_eq (ops : List (Op α)) (h : RedactingHandler α) :
    h.build ops = { h with handler := h.handler ++ ops.flatMap (forwarded h.isSensitive) } := by
  unfold RedactingHandler.build
  induction ops generalizing h with
  | nil => simp
  | cons op ops ih =>
    have hkeys : (h.apply op).isSensitive = h.isSensitive := by rw [apply_eq]; rfl
    rw [List.foldl_cons, ih, hkeys, apply_eq, List.flatMap_cons, List.append_assoc]

theorem isSensitive_build (ops : List (Op α)) (h : RedactingHandler α) :
    (h.build ops).isSensitive = h.isSensitive := by
  rw [build_eq]
  rfl

theorem handler_newRedactingHandler (casing : Casing) (opts : List HandlerOption) :
    (newRedactingHandler casing opts : RedactingHandler α).handler = [] := by
  unfold newRedactingHandler
  refine List.foldlRecOn opts _ (motive := fun h : RedactingHandler α => h.handler = []) rfl fun h hnone opt _ => ?_
  cases opt <;> exact hnone

theorem isSensitive_empty (h : RedactingHandler α) : h.isSensitive "" = false := by
  unfold RedactingHandler.isSensitive
  rw [if_pos rfl]

theorem handle_build {h : RedactingHandler α} (hnew : h.handler = []) (ops : List (Op α)) (r : Record α) :
    (h.build ops).handle r =
      (ops.flatMap (forwarded h.isSensitive), { r with attrs := withoutEmptyGroups (redactAttrs h.isSensitive r.attrs) }) := by
  unfold RedactingHandler.handle
  rw [isSensitive_build, redactAttrs_eq_map, build_eq]
  show (h.handler ++ _, _) = _
  rw [hnew, List.nil_append]

section Built

variable {sensitive : String → Bool}

theorem forwarded_of_agree {as bs : List (Attr α)} (h : AttrsAgree sensitive as bs) :
    forwarded sensitive (.withAttrs as) = forwarded sensitive (.withAttrs bs) := by
  have hredact := redactAttrs_of_agree h
  rw [redactAttrs_eq_map, redactAttrs_eq_map] at hredact
  have hlength : as.length = bs.length := by simpa using congrArg List.length hredact
  unfold forwarded
  simp only [hlength, hredact]

theorem forwarded_of_opsAgree (hempty : sensitive "" = false) {ops ops' : List (Op α)}
    (h : OpsAgree sensitive false ops ops') (hopen : ∀ name ∈ openGroups ops, sensitive name = false) :
    ops.flatMap (forwarded sensitive) = ops'.flatMap (forwarded sensitive) := by
  generalize hhot : false = hot at h
  induction h with
  | nil hot => rfl
  | withAttrs has _ ih =>
    subst hhot
    rw [List.flatMap_cons, List.flatMap_cons, ih hopen rfl, forwarded_of_agree (by simpa using has)]
  | withGroup name _ ih =>
    subst hhot
    have hname : sensitive name = false := by
      by_cases hne : name = ""
      · rw [hne, hempty]
      · exact hopen name (by rw [openGroups, if_neg hne]; exact List.mem_cons_self)
    have hrest := ih (fun inner hinner => hopen inner (by
      rw [openGroups]
      split
      · exact hinner
      · exact List.mem_cons_of_mem _ hinner)) (by rw [hname]; rfl)
    rw [List.flatMap_cons, List.flatMap_cons, hrest]

theorem lines_forwarded (path : List String) (ops : List (Op α)) (r : Record α) :
    (lines path (ops.flatMap (forwarded sensitive))
        { r with attrs := withoutEmptyGroups (redactAttrs sensitive r.attrs) }).filter (visible sensitive) =
      (lines path ops r).filter (visible sensitive) := by
  induction ops generalizing path with
  | nil =>
    rw [List.flatMap_nil, lines, lines, attrLines_withoutEmptyGroups]
    exact lines_redactAttrs path r.attrs
  | cons op ops ih =>
    rw [List.flatMap_cons]
    cases op with
    | withAttrs attrs =>
      rw [lines, List.filter_append, forwarded]
      by_cases hnone : attrs.length = 0
      · rw [if_pos hnone, List.nil_append, ih, List.length_eq_zero_iff.mp hnone]
        rfl
      · rw [if_neg hnone, List.singleton_append, lines, List.filter_append, ih, ← redactAttrs_eq_map,
          lines_redactAttrs]
    | withGroup name =>
      rw [lines, forwarded]
      by_cases hname : name = ""
      · rw [if_pos hname, if_pos hname, List.nil_append, ih]
      · rw [if_neg hname, if_neg hname, List.singleton_append, lines, if_neg hname, ih]

end Built

/-! ## Agreement with oneself -/

mutual

theorem ValueAgree.refl (sensitive : String → Bool) : ∀ v : Value α, ValueAgree sensitive v v
  | .leaf a => .leaf a
  | .group attrs => .group (AttrsAgree.refl sensitive attrs)
  | .valuer v => .valuer (ValueAgree.refl sensitive v)

theorem AttrsAgree.refl (sensitive : String → Bool) : ∀ attrs : List (Attr α), AttrsAgree sensitive attrs attrs
  | [] => .nil
  | (key, v) :: rest => .shown key (ValueAgree.refl sensitive v) (AttrsAgree.refl sensitive rest)

end

theorem OpsAgree.refl (sensitive : String → Bool) (hot : Bool) (ops : List (Op α)) :
    OpsAgree sensitive hot ops ops := by
  induction ops generalizing hot with
  | nil => exact .nil hot
  | cons op ops ih =>
    cases op with
    | withAttrs attrs => exact .withAttrs (AttrsAgree.refl _ attrs) (ih hot)
    | withGroup name => exact .withGroup name (ih _)

/-! ## What is sealed -/

def sole (key value : String) : Record α := ⟨0, 0, "", 0, [(key, .leaf (.string value))]⟩

/-- Below the groups that are open, the values a handler is to keep from the log. -/
def secret (sensitive : String → Bool) (ops : List (Op α)) (key : String) : Bool :=
  (openGroups ops).any sensitive || sensitive key

/-- Records that differ under sensitive keys are written alike, and every other leaf is written as
it is, exactly when no group that `WithGroup` opened is sensitive. -/
theorem sealed_iff (casing : Casing) (opts : List HandlerOption) (ops : List (Op α)) :
    let h : RedactingHandler α := newRedactingHandler casing opts
    ((∀ (ops' : List (Op α)) (r r' : Record α), OpsAgree h.isSensitive false ops ops' →
        RecordsAgree (secret h.isSensitive ops) r r' → (h.build ops).handle r = (h.build ops').handle r') ∧
      ∀ r : Record α,
        (lines [] ((h.build ops).handle r).1 ((h.build ops).handle r).2).filter (visible h.isSensitive) =
          (lines [] ops r).filter (visible h.isSensitive)) ↔
      ∀ name ∈ openGroups ops, h.isSensitive name = false := by
  intro h
  have hnew : h.handler = [] := handler_newRedactingHandler casing opts
  clear_value h
  constructor
  · intro ⟨halike, _⟩ name hname
    by_contra hsensitive
    have hhot : (openGroups ops).any h.isSensitive = true :=
      List.any_eq_true.mpr ⟨name, hname, by simpa using hsensitive⟩
    -- two records that differ in the value of one attribute with no key
    have hagree : RecordsAgree (secret h.isSensitive ops) (sole "" "a" : Record α) (sole "" "b") :=
      ⟨rfl, rfl, rfl, rfl, .hidden _ _ (by rw [secret, hhot]; rfl) .nil⟩
    have hsame := congrArg (fun out => lines [] [] out.2) (halike ops _ _ (OpsAgree.refl _ _ ops) hagree)
    simp only [handle_build hnew, sole, lines, attrLines_withoutEmptyGroups, redactAttrs, isSensitive_empty] at hsame
    exact absurd hsame (by simp [redactValue, attrLines, valueLines, maxLogValues])
  · intro hopen
    refine ⟨fun ops' r r' hops hrecord => ?_, fun r => ?_⟩
    · have hcold : (openGroups ops).any h.isSensitive = false := List.any_eq_false.mpr fun name hname => by
        rw [hopen name hname]
        decide
      have hsecret : secret h.isSensitive ops = h.isSensitive := by
        funext key
        rw [secret, hcold, Bool.false_or]
      rw [hsecret] at hrecord
      have hcalls := forwarded_of_opsAgree (isSensitive_empty h) hops hopen
      rw [handle_build hnew, handle_build hnew, hcalls, redactAttrs_of_agree hrecord.attrs]
      simp only [hrecord.time, hrecord.level, hrecord.message, hrecord.pc]
    · rw [handle_build hnew]
      exact lines_forwarded [] ops r

theorem sensitive_of_default {casing : Casing} {key : String} (hkey : key ∈ defaultSensitiveKeys) :
    (newRedactingHandler casing [] : RedactingHandler α).isSensitive key = true := by
  have hnonempty : ¬ key = "" := by
    rintro rfl
    exact absurd hkey (by decide +kernel)
  have hmem : casing.toLower key ∈ (newRedactingHandler casing [] : RedactingHandler α).sensitiveKeys :=
    List.mem_map_of_mem hkey
  unfold RedactingHandler.isSensitive
  rw [if_neg hnonempty]
  exact if_pos hmem

/-- A logger made with `WithGroup("credentials")` writes the user's name. -/
theorem credentials_written :
    let h : RedactingHandler Nat := newRedactingHandler latinCasing []
    let ops : List (Op Nat) := [.withGroup "credentials"]
    RecordsAgree (secret h.isSensitive ops) (sole "user" "alice" : Record Nat) (sole "user" "bob") ∧
      (h.build ops).handle (sole "user" "alice") ≠ (h.build ops).handle (sole "user" "bob") := by
  intro h ops
  have hgroup : h.isSensitive "credentials" = true := sensitive_of_default (by decide +kernel)
  refine ⟨⟨rfl, rfl, rfl, rfl, .hidden _ _ ?_ .nil⟩, fun hsame => ?_⟩
  · show ((openGroups [.withGroup "credentials"]).any h.isSensitive || _) = true
    rw [openGroups, if_neg (by decide), openGroups, List.any_cons, hgroup]
    rfl
  · have hattrs := congrArg (fun out => out.2.attrs) hsame
    rw [handle_build (handler_newRedactingHandler latinCasing []),
      handle_build (handler_newRedactingHandler latinCasing [])] at hattrs
    have huser : h.isSensitive "user" = false := by decide +kernel
    have hlines := congrArg (attrLines []) hattrs
    simp only [attrLines_withoutEmptyGroups, sole, redactAttrs] at hlines
    rw [if_neg (by rw [huser]; decide), if_neg (by rw [huser]; decide)] at hlines
    exact absurd hlines (by simp [redactValue, attrLines, valueLines, maxLogValues])

end PerGo.L4.LogSecrets
