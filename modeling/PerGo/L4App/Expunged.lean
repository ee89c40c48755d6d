import PerGo.L3Audit.PurgeRun
import PerGo.L3Inbound.Payload

/-!
# What an anonymised payload still tells

`InboundProcessor` writes the event of a message to the audit log. `anonymizePayload` goes through that
document by hand: it knows the body, the caption and the URL of the media, and the URL of a story, and
replaces each where it stands. All else is kept.

* `expunged_eq_iff`: two events of one message are anonymised alike exactly when what is kept is the same.
* `sender_kept`: two senders stay apart.
-/
namespace PerGo.L4.Expunged

open PerGo.Core PerGo.L1 PerGo.L1.Json PerGo.L2 PerGo.L3 PerGo.L3.Audit PerGo.L3.Retention

/-! ## The document that is written back -/

variable (float64 : Dec → Dec)

mutual
theorem readNumbers_total : ∀ j : Json, readNumbers (fun n => some (float64 n)) j = some (j.read float64)
  | .null => rfl
  | .bool _ => rfl
  | .num _ => rfl
  | .str _ => rfl
  | .arr xs => by rw [readNumbers, readElements_total xs]; rfl
  | .obj kvs => by rw [readNumbers, readFields_total kvs]; rfl
theorem readElements_total : ∀ xs : List Json,
    Retention.readElements (fun n => some (float64 n)) xs = some (Json.readElements float64 xs)
  | [] => rfl
  | x :: xs => by
    rw [Retention.readElements, readNumbers_total x, readElements_total xs]
    rfl
theorem readFields_total : ∀ kvs : List (String × Json),
    Retention.readFields (fun n => some (float64 n)) kvs = some (Json.readFields float64 kvs)
  | [] => rfl
  | (k, x) :: kvs => by
    rw [Retention.readFields, readNumbers_total x, readFields_total kvs]
    rfl
end

/-- What the purge writes over the payload of a row: the document read into a map, anonymised, and its
keys in order. -/
def expunged (purgedAt : String) (doc : Document) : Option Json :=
  match unmarshal (fun n => some (float64 n)) (some (.obj doc.fields)) with
  | some (some payload) => some (sorted (.obj (anonymizePayload purgedAt payload)))
  | _ => none

theorem expunged_eq (purgedAt : String) (doc : Document) :
    expunged float64 purgedAt doc =
      some (sorted (.obj (anonymizePayload purgedAt (Json.readFields float64 doc.fields)))) := by
  rw [expunged, unmarshal, readFields_total]
  rfl

/-! ## Keys -/

theorem keyed_setKey {m : Payload} (h : Assoc.Keyed m) (k : String) (v : Json) : Assoc.Keyed (setKey m k v) := by
  have hrest : Assoc.Keyed (m.filter fun kv => kv.1 ≠ k) := h.sublist ((List.filter_sublist).map _)
  rw [setKey, Assoc.Keyed, List.map_append, List.map_singleton, List.nodup_append]
  refine ⟨hrest, List.nodup_singleton k, ?_⟩
  intro k₁ hk₁ k₂ hk₂ heq
  obtain ⟨kv, hkv, rfl⟩ := List.mem_map.mp hk₁
  have hne := (List.mem_filter.mp hkv).2
  simp only [ne_eq, decide_eq_true_eq] at hne
  exact hne (heq.trans (List.mem_singleton.mp hk₂))

theorem keyed_expunge {m : Payload} (h : Assoc.Keyed m) (k : String) : Assoc.Keyed (expunge k m) := by
  unfold expunge
  split
  · exact keyed_setKey h k _
  · exact h

theorem keyed_inObject {m : Payload} (h : Assoc.Keyed m) (k : String) (f : Payload → Payload) :
    Assoc.Keyed (inObject k f m) := by
  unfold inObject
  split
  · exact keyed_setKey h k _
  · exact h

theorem keyed_anonymizePayload {m : Payload} (h : Assoc.Keyed m) (purgedAt : String) :
    Assoc.Keyed (anonymizePayload purgedAt m) := by
  refine keyed_setKey (keyed_setKey ?_ _ _) _ _
  exact keyed_inObject (keyed_inObject (keyed_inObject (keyed_expunge h _) _ _) _ _) _ _

/-- What `anonymizePayload` makes of `media`. -/
def expungeMedia (media : Payload) : Payload := expunge "media_url" (expunge "caption" media)

/-- What `anonymizePayload` makes of `request`. -/
def expungeRequest (req : Payload) : Payload := inObject "media" expungeMedia (expunge "media_url" (expunge "body" req))

theorem lookup_anonymizePayload (purgedAt : String) (m : Payload) (k : String) :
    (anonymizePayload purgedAt m).lookup k =
      if k = "purged_at" then some (.str purgedAt)
      else if k = "purged" then some (.str "true")
      else if k = "story_event" then (m.lookup k).map (onObject (expunge "media_url"))
      else if k = "request" then (m.lookup k).map (onObject expungeRequest)
      else if k = "media" then (m.lookup k).map (onObject expungeMedia)
      else if k = "body" then (m.lookup k).map fun _ => .str ExpungedMarker
      else m.lookup k := by
  unfold anonymizePayload
  simp only [lookup_setKey, lookup_inObject, lookup_expunge]
  split_ifs <;> simp_all <;> rfl

theorem lookup_present {entries : List (String × Option Json)} (hn : Assoc.Keyed entries) (k : String) :
    (Document.present entries).lookup k = (entries.lookup k).join := by
  ext v
  have hkeyed : Assoc.Keyed (Document.present entries) := (Document.present_keys entries).nodup hn
  rw [Assoc.lookup_eq_some_iff hkeyed, Document.mem_present, Option.join_eq_some_iff, Assoc.lookup_eq_some_iff hn]

/-! ## What is kept -/

def written (part : Option Json) : Option Json := part.map fun j => sorted (j.read float64)

structure SameMedia (m m' : EventMedia) : Prop where
  mediaType : m.mediaType = m'.mediaType
  filename : m.filename = m'.filename
  caption : m.caption = "" ↔ m'.caption = ""
  durationMS : written float64 (omitZero m.durationMS) = written float64 (omitZero m'.durationMS)
  rmsEnergy : written float64 (m.rmsEnergy.map .num) = written float64 (m'.rmsEnergy.map .num)
  telemetry : written float64 (m.telemetry.map Payload.telemetry) = written float64 (m'.telemetry.map Payload.telemetry)

structure SameStory (s s' : InboundStoryEvent) : Prop where
  subtype : s.subtype = s'.subtype
  mediaURL : s.mediaURL = "" ↔ s'.mediaURL = ""

structure SameEnvelope (a b : InboundEventPayload) : Prop where
  event : a.event = b.event
  traceID : a.traceID = b.traceID
  messageID : a.messageID = b.messageID
  channel : a.channel = b.channel
  timestamp : a.timestamp = b.timestamp
  workspaceID : a.workspaceID = b.workspaceID
  to_ : a.to_ = b.to_
  timing : a.timing = b.timing

/-- The same sender, metadata, location, contacts and interactive part, and the same places for the rest. -/
structure SameRest (a b : InboundEventPayload) : Prop where
  from_ : a.from_ = b.from_
  body : a.body = "" ↔ b.body = ""
  media : Option.Rel (SameMedia float64) a.media b.media
  location : written float64 (a.location.map Payload.location) = written float64 (b.location.map Payload.location)
  contacts : written float64 (omitNull (jsonSlice (a.contacts.map Payload.contact))) =
    written float64 (omitNull (jsonSlice (b.contacts.map Payload.contact)))
  interactive : written float64 (a.interactive.bind Payload.interactive) = written float64 (b.interactive.bind Payload.interactive)
  story : Option.Rel SameStory a.story b.story
  senderName : a.senderName = b.senderName
  metadata : written float64 (omitEmptyMap a.metadata) = written float64 (omitEmptyMap b.metadata)

theorem map_eq_map_iff_rel {α β : Type} {f : α → β} {R : α → α → Prop} (hf : ∀ a b, f a = f b ↔ R a b) {x y : Option α} :
    x.map f = y.map f ↔ Option.Rel R x y := by
  cases x with
  | none => cases y <;> simp
  | some a => cases y <;> simp [hf]

theorem map_sorted_read (part : Option Json) : (part.map (Json.read float64)).map sorted = written float64 part := by
  rw [written, Option.map_map]
  rfl

theorem written_omitEmpty_iff {s t : String} : written float64 (omitEmpty s) = written float64 (omitEmpty t) ↔ s = t := by
  by_cases hs : s = "" <;> by_cases ht : t = "" <;> simp [written, omitEmpty, hs, ht, Json.read, sorted]

theorem written_str (s : String) : written float64 (some (.str s)) = some (.str s) := rfl

theorem map_sorted_erased (part : Option Json) :
    ((part.map (Json.read float64)).map fun _ => Json.str ExpungedMarker).map sorted =
      part.map fun _ => .str ExpungedMarker := by
  rw [Option.map_map, Option.map_map]
  rfl

theorem erased_omitEmpty_iff {s t : String} :
    ((omitEmpty s).map fun _ => Json.str ExpungedMarker) = (omitEmpty t).map (fun _ => .str ExpungedMarker) ↔
      (s = "" ↔ t = "") := by
  by_cases hs : s = "" <;> by_cases ht : t = "" <;> simp [omitEmpty, hs, ht]

/-! ## Nested parts -/

def readStruct (entries : List (String × Option Json)) : Audit.Payload := Json.readFields float64 (Document.present entries)

theorem lookup_readStruct {entries : List (String × Option Json)} (hn : Assoc.Keyed entries) (k : String) :
    (readStruct float64 entries).lookup k = (entries.lookup k).join.map (read float64) := by
  rw [readStruct, lookup_readFields, lookup_present hn]

theorem keyed_readStruct {entries : List (String × Option Json)} (hn : Assoc.Keyed entries) :
    Assoc.Keyed (readStruct float64 entries) := by
  rw [readStruct, Assoc.Keyed, readFields_keys]
  exact (Document.present_keys entries).nodup hn

/-- The fields of `InboundStoryEvent`. -/
def storyEntries (s : InboundStoryEvent) : List (String × Option Json) :=
  [("subtype", some (.str s.subtype)), ("media_url", omitEmpty s.mediaURL)]

theorem keyed_storyEntries (s : InboundStoryEvent) : Assoc.Keyed (storyEntries s) := by
  simp [storyEntries, Assoc.Keyed]

theorem story_iff (s s' : InboundStoryEvent) :
    sorted (onObject (expunge "media_url") ((Payload.story s).read float64)) =
      sorted (onObject (expunge "media_url") ((Payload.story s').read float64)) ↔ SameStory s s' := by
  have hobj : ∀ s, onObject (expunge "media_url") ((Payload.story s).read float64) =
      .obj (expunge "media_url" (readStruct float64 (storyEntries s))) := fun _ => rfl
  have hks : ∀ s, Assoc.Keyed (expunge "media_url" (readStruct float64 (storyEntries s))) :=
    fun s => keyed_expunge (keyed_readStruct float64 (keyed_storyEntries s)) _
  rw [hobj, hobj, sorted_obj_eq_iff_of_keys ["subtype", "media_url"] (hks s) (hks s')]
  · simp only [lookup_expunge, lookup_readStruct float64 (keyed_storyEntries _), List.forall_mem_cons]
    simp only [storyEntries, lookup_cons_ite, String.reduceEq, reduceIte, Option.join_some, map_sorted_read,
      map_sorted_erased, written_str, erased_omitEmpty_iff, Option.some.injEq, Json.str.injEq, List.not_mem_nil]
    exact ⟨fun h => ⟨h.1, h.2.1⟩, fun h => ⟨h.1, h.2, fun _ hk => hk.elim⟩⟩
  · intro k hk
    simp only [List.mem_cons, List.not_mem_nil, or_false, not_or] at hk
    simp only [lookup_expunge, lookup_readStruct float64 (keyed_storyEntries _)]
    simp only [storyEntries, lookup_cons_ite, if_neg hk.1, if_neg hk.2]

/-- The fields of `EventMedia`. -/
def mediaEntries (m : EventMedia) : List (String × Option Json) :=
  [("media_url", some (.str m.mediaURL)), ("media_type", some (.str m.mediaType)), ("filename", omitEmpty m.filename),
   ("caption", omitEmpty m.caption), ("duration_ms", omitZero m.durationMS), ("rms_energy", m.rmsEnergy.map .num),
   ("telemetry", m.telemetry.map Payload.telemetry)]

theorem keyed_mediaEntries (m : EventMedia) : Assoc.Keyed (mediaEntries m) := by
  simp [mediaEntries, Assoc.Keyed]

theorem media_iff (m m' : EventMedia) :
    sorted (onObject expungeMedia ((Payload.media m).read float64)) =
      sorted (onObject expungeMedia ((Payload.media m').read float64)) ↔ SameMedia float64 m m' := by
  have hobj : ∀ m, onObject expungeMedia ((Payload.media m).read float64) =
      .obj (expungeMedia (readStruct float64 (mediaEntries m))) := fun _ => rfl
  have hks : ∀ m, Assoc.Keyed (expungeMedia (readStruct float64 (mediaEntries m))) :=
    fun m => keyed_expunge (keyed_expunge (keyed_readStruct float64 (keyed_mediaEntries m)) _) _
  rw [hobj, hobj, sorted_obj_eq_iff_of_keys
    ["media_type", "filename", "caption", "duration_ms", "rms_energy", "telemetry"] (hks m) (hks m')]
  · simp only [expungeMedia, lookup_expunge, lookup_readStruct float64 (keyed_mediaEntries _), List.forall_mem_cons]
    simp only [mediaEntries, lookup_cons_ite, String.reduceEq, reduceIte, Option.join_some, map_sorted_read,
      map_sorted_erased, written_str, written_omitEmpty_iff, erased_omitEmpty_iff, Option.some.injEq, Json.str.injEq,
      List.not_mem_nil]
    constructor
    · rintro ⟨h₁, h₂, h₃, h₄, h₅, h₆, -⟩
      exact ⟨h₁, h₂, h₃, h₄, h₅, h₆⟩
    · rintro ⟨h₁, h₂, h₃, h₄, h₅, h₆⟩
      exact ⟨h₁, h₂, h₃, h₄, h₅, h₆, fun _ hk => hk.elim⟩
  · intro k hk
    simp only [List.mem_cons, List.not_mem_nil, or_false, not_or] at hk
    obtain ⟨h₁, h₂, h₃, h₄, h₅, h₆⟩ := hk
    simp only [expungeMedia, lookup_expunge, lookup_readStruct float64 (keyed_mediaEntries _)]
    simp only [mediaEntries, lookup_cons_ite, if_neg h₁, if_neg h₂, if_neg h₃, if_neg h₄, if_neg h₅, if_neg h₆]
    by_cases hurl : k = "media_url"
    · simp only [hurl, String.reduceEq, reduceIte, Option.join_some, Option.map_some]
    · simp only [if_neg hurl]

/-! ## The whole event -/

theorem message_eq_some {tt : TimeText} {p : InboundEventPayload} {doc : Document} (h : Payload.message tt p = some doc) :
    doc = Payload.messageDoc tt p (p.interactive.bind Payload.interactive) := by
  unfold Payload.message at h
  cases hi : p.interactive with
  | none =>
    rw [hi] at h
    exact (Option.some.inj h).symm
  | some i =>
    rw [hi] at h
    obtain ⟨j, hj, hdoc⟩ := Option.bind_eq_some_iff.mp h
    obtain ⟨json, hjson, rfl⟩ := Option.map_eq_some_iff.mp hj
    rw [Option.bind_some, hjson]
    exact (Option.some.inj hdoc).symm

theorem keyed_messageEntries (tt : TimeText) (p : InboundEventPayload) (i : Option Json) :
    Assoc.Keyed (Payload.messageEntries tt p i) := by
  simp [Payload.messageEntries, Assoc.Keyed]

theorem rel_of_part {α : Type} {R : α → α → Prop} {json : α → Json} {f : Audit.Payload → Audit.Payload}
    (hR : ∀ a b, sorted (onObject f ((json a).read float64)) = sorted (onObject f ((json b).read float64)) ↔ R a b)
    {x y : Option α} :
    (((x.map json).map (Json.read float64)).map (onObject f)).map sorted =
      (((y.map json).map (Json.read float64)).map (onObject f)).map sorted ↔ Option.Rel R x y := by
  simp only [Option.map_map]
  exact map_eq_map_iff_rel hR

theorem expunged_eq_iff {tt : TimeText} {a b : InboundEventPayload} {da db : Document} (purgedAt : String)
    (ha : Payload.message tt a = some da) (hb : Payload.message tt b = some db) (hsame : SameEnvelope a b) :
    expunged float64 purgedAt da = expunged float64 purgedAt db ↔ SameRest float64 a b := by
  obtain rfl := message_eq_some ha
  obtain rfl := message_eq_some hb
  have hks : ∀ p i, Assoc.Keyed (anonymizePayload purgedAt (readStruct float64 (Payload.messageEntries tt p i))) :=
    fun p i => keyed_anonymizePayload (keyed_readStruct float64 (keyed_messageEntries tt p i)) purgedAt
  have hdoc : ∀ p i, expunged float64 purgedAt (Payload.messageDoc tt p i) =
      some (sorted (.obj (anonymizePayload purgedAt (readStruct float64 (Payload.messageEntries tt p i))))) :=
    fun p i => expunged_eq float64 purgedAt _
  rw [hdoc, hdoc, Option.some.injEq, sorted_obj_eq_iff_of_keys
    ["from", "body", "media", "location", "contacts", "interactive", "story_event", "sender_name", "metadata"]
    (hks _ _) (hks _ _)]
  · simp only [lookup_anonymizePayload, lookup_readStruct float64 (keyed_messageEntries tt _ _), List.forall_mem_cons]
    simp only [Payload.messageEntries, lookup_cons_ite, String.reduceEq, reduceIte, Option.join_some, map_sorted_read,
      map_sorted_erased, written_str, written_omitEmpty_iff, erased_omitEmpty_iff, Option.some.injEq, Json.str.injEq,
      rel_of_part float64 (media_iff float64), rel_of_part float64 (story_iff float64), List.not_mem_nil]
    constructor
    · rintro ⟨h₁, h₂, h₃, h₄, h₅, h₆, h₇, h₈, h₉, -⟩
      exact ⟨h₁, h₂, h₃, h₄, h₅, h₆, h₇, h₈, h₉⟩
    · rintro ⟨h₁, h₂, h₃, h₄, h₅, h₆, h₇, h₈, h₉⟩
      exact ⟨h₁, h₂, h₃, h₄, h₅, h₆, h₇, h₈, h₉, fun _ hk => hk.elim⟩
  · intro k hk
    simp only [List.mem_cons, List.not_mem_nil, or_false, not_or] at hk
    obtain ⟨h₁, h₂, h₃, h₄, h₅, h₆, h₇, h₈, h₉⟩ := hk
    simp only [lookup_anonymizePayload, lookup_readStruct float64 (keyed_messageEntries tt _ _)]
    simp only [Payload.messageEntries, lookup_cons_ite, if_neg h₁, if_neg h₂, if_neg h₃, if_neg h₄, if_neg h₅, if_neg h₆,
      if_neg h₇, if_neg h₈, if_neg h₉, hsame.event, hsame.traceID, hsame.messageID, hsame.channel, hsame.timestamp,
      hsame.workspaceID, hsame.to_, hsame.timing]

/-! ## Examples -/

def times : TimeText := ⟨fun _ => "2026-06-01T10:00:00Z", fun _ => "2026-06-01T10:00:00Z"⟩

def textFrom (from_ senderName body : String) : InboundEventPayload where
  event := "inbound_message"
  traceID := "trace-1"
  messageID := "wamid.1"
  channel := "whatsapp"
  timestamp := 0
  workspaceID := 1
  from_ := from_
  to_ := "5511888887777"
  body := body
  media := none
  location := none
  contacts := []
  interactive := none
  story := none
  timing := none
  senderName := senderName
  metadata := []

theorem bodies_expunged :
    ∃ da ∈ Payload.message times (textFrom "5511999998888" "Alice" "hi"),
      ∃ db ∈ Payload.message times (textFrom "5511999998888" "Alice" "bye"),
        expunged id "2026-07-01T00:00:00Z" da = expunged id "2026-07-01T00:00:00Z" db := by
  obtain ⟨da, hda⟩ : ∃ da, da ∈ Payload.message times (textFrom "5511999998888" "Alice" "hi") := ⟨_, rfl⟩
  obtain ⟨db, hdb⟩ : ∃ db, db ∈ Payload.message times (textFrom "5511999998888" "Alice" "bye") := ⟨_, rfl⟩
  refine ⟨da, hda, db, hdb, ?_⟩
  refine (expunged_eq_iff id _ hda hdb ⟨rfl, rfl, rfl, rfl, rfl, rfl, rfl, rfl⟩).mpr ?_
  exact ⟨rfl, by decide, .none, rfl, rfl, rfl, .none, rfl, rfl⟩

theorem sender_kept :
    ∃ a b, SameEnvelope a b ∧ payloadEmpty a = false ∧ payloadEmpty b = false ∧
      ∃ da ∈ Payload.message times a, ∃ db ∈ Payload.message times b,
        expunged id "2026-07-01T00:00:00Z" da ≠ expunged id "2026-07-01T00:00:00Z" db := by
  refine ⟨textFrom "5511999998888" "Alice" "hi", textFrom "5511777776666" "Bob" "hi",
    ⟨rfl, rfl, rfl, rfl, rfl, rfl, rfl, rfl⟩, by decide, by decide, _, rfl, _, rfl, by decide +kernel⟩

end PerGo.L4.Expunged
