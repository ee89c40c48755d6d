import PerGo.L2Domain.Request
import PerGo.L3Queue.Invocations
import PerGo.L3Queue.RowWrites
import PerGo.L4App.DispatchRun

/-!
# The range of the TTL

`ValidateMessage` bounds `ttl_seconds` from below only; `isExpired` multiplies it into a `time.Duration`, a
64-bit count of nanoseconds, which holds 9223372036 seconds. `wrapped` is what the multiplication leaves.
A message without a queue time (the zero `time.Time`) never expires.

* `ttl_honoured_iff`: the TTL of a message is honoured at every clock exactly where it fits the duration and the
  message has a queue time.
* `expired_at_once`: a TTL of 9223372037 seconds expires before it began.
-/
namespace PerGo.L4.TTLRange

open PerGo.Core PerGo.L1 PerGo.L2 PerGo.L3
open DispatchRun (sampleText accepts)

/-! ## The duration -/

/-- `time.Duration(ttl) * time.Second`, in 64 bits. -/
def wrapped (ttl : Int) : Int := Int.bmod (ttl * second) (2 ^ 64)

theorem wrapped_of_le {ttl : Int} (hpos : 0 < ttl) (h : ttl ≤ 9223372036) : wrapped ttl = ttl * second := by
  unfold wrapped second
  exact Int.bmod_eq_of_le (by omega) (by omega)

theorem wrapped_le {ttl : Int} (hpos : 0 < ttl) : wrapped ttl ≤ ttl * second := by
  unfold wrapped second
  rw [Int.bmod_eq_emod]
  split <;> omega

theorem wrapped_lt {ttl : Int} (h : 9223372036 < ttl) : wrapped ttl < ttl * second := by
  unfold wrapped second
  rw [Int.bmod_eq_emod]
  split <;> omega

theorem isExpired_iff (env : Env) {q : QueueMessage} {ttl : Int} (hq : q.ttlSeconds = some ttl) (hpos : 0 < ttl) :
    isExpired env q = true ↔ q.queuedAt ≠ 0 ∧ env.now > q.queuedAt + wrapped ttl := by
  unfold isExpired
  rw [hq]
  dsimp only
  rw [if_neg (by omega)]
  split
  · next h => exact ⟨(fun hc => nomatch hc), fun hc => absurd h hc.1⟩
  · next h =>
    rw [decide_eq_true_eq]
    exact ⟨fun hc => ⟨h, hc⟩, fun hc => hc.2⟩

/-! ## The whole range -/

theorem validateMessage_ttl (req : CreateMessageRequest) {ttl : Int} (hpos : 0 < ttl) :
    (validateMessage { req with ttlSeconds := some ttl }).isOk = (validateMessage { req with ttlSeconds := none }).isOk := by
  have hcheck : check ((some ttl).any (· ≤ 0)) "ttl_seconds" "must be a positive integer" = [] := by
    simp [check, hpos]
  have hdetails : messageDetails { req with ttlSeconds := some ttl } = messageDetails { req with ttlSeconds := none } := by
    unfold messageDetails
    rw [hcheck]
    rfl
  unfold validateMessage
  rw [hdetails]
  split <;> rfl

structure Honoured (env : Env) (q : QueueMessage) (ttl : Int) : Prop where
  agrees : isExpired env q = true ↔ env.now > q.queuedAt + ttl * second
  /-- with a smaller TTL the message would have expired as well -/
  monotone : ∀ ttl', 0 < ttl' → ttl' ≤ ttl → isExpired env q = true →
    isExpired env { q with ttlSeconds := some ttl' } = true
  /-- a call before the expiry goes on to the channels -/
  kept : ∀ o w, ChecksTTL o env q w → env.now ≤ q.queuedAt + ttl * second → Enters o env q w

theorem honoured_of_fits (env : Env) {q : QueueMessage} {ttl : Int} (hq : q.ttlSeconds = some ttl) (hpos : 0 < ttl)
    (hset : q.queuedAt ≠ 0) (hfits : ttl ≤ 9223372036) : Honoured env q ttl := by
  have hexp := isExpired_iff env hq hpos
  rw [wrapped_of_le hpos hfits] at hexp
  have hag : isExpired env q = true ↔ env.now > q.queuedAt + ttl * second := hexp.trans (and_iff_right hset)
  refine ⟨hag, ?_, ?_⟩
  · intro ttl' hpos' hle' hex
    have hnow := hag.mp hex
    have hwrapped := wrapped_le hpos'
    have hmul : ttl' * second ≤ ttl * second := Int.mul_le_mul_of_nonneg_right hle' (by decide)
    refine (isExpired_iff env rfl hpos').mpr ⟨hset, ?_⟩
    calc q.queuedAt + wrapped ttl' ≤ q.queuedAt + ttl * second := Int.add_le_add_left (hwrapped.trans hmul) _
      _ < env.now := hnow
  · intro o w hc hnow
    refine ⟨hc.notPrivate, hc.row, hc.notSent, hc.notClaimed, Bool.eq_false_iff.mpr fun hex => ?_⟩
    exact absurd (hag.mp hex) (Int.not_lt.mpr hnow)

theorem not_honoured_at (env : Env) {q : QueueMessage} {ttl : Int} (hq : q.ttlSeconds = some ttl) (hpos : 0 < ttl)
    (h : q.queuedAt = 0 ∨ 9223372036 < ttl) : ∃ now, ¬Honoured { env with now := now } q ttl := by
  by_cases hset : q.queuedAt = 0
  · refine ⟨q.queuedAt + ttl * second + 1, fun hh => ?_⟩
    have hlate := hh.agrees.mpr (Int.lt_succ _)
    exact ((isExpired_iff _ hq hpos).mp hlate).1 hset
  · refine ⟨q.queuedAt + ttl * second, fun hh => ?_⟩
    have hlt := wrapped_lt (h.resolve_left hset)
    have hexp := (isExpired_iff { env with now := q.queuedAt + ttl * second } hq hpos).mpr
      ⟨hset, Int.add_lt_add_left hlt _⟩
    exact Int.lt_irrefl _ (hh.agrees.mp hexp)

/-- **A TTL is honoured at every clock** exactly where it fits the duration and the message has a queue time. -/
theorem ttl_honoured_iff (q : QueueMessage) (ttl : Int) (hq : q.ttlSeconds = some ttl) (hpos : 0 < ttl) :
    (∀ env, Honoured env q ttl) ↔ q.queuedAt ≠ 0 ∧ ttl ≤ 9223372036 := by
  constructor
  · intro h
    by_contra hno
    rw [not_and_or, not_not, Int.not_le] at hno
    obtain ⟨now, hnot⟩ := not_honoured_at accepts hq hpos hno
    exact hnot (h _)
  · intro h env
    exact honoured_of_fits env hq hpos h.1 h.2

/-! ## Two TTLs -/

def withTTL (ttl : Int) : QueueMessage := { sampleText with ttlSeconds := some ttl }

theorem one_hour_honoured : Honoured accepts (withTTL 3600) 3600 :=
  (ttl_honoured_iff (withTTL 3600) 3600 rfl (by decide)).mpr ⟨by decide, by decide⟩ accepts

def sampleRequest (ttl : Option Int) : CreateMessageRequest :=
  { chatID := none, connectionID := some 1, contactID := none, replyToUID := none, senderType := "", senderName := "",
    campaignID := none, variablesJSON := [], to_ := sampleText.to_, from_ := "", channel := sampleText.channel,
    body := sampleText.body, media := none, metadata := [], ttlSeconds := ttl, templateName := "", language := "",
    components := [], fallbackChannels := [], interactive := none, channelOverrides := [], fallbackBehavior := "",
    type := "", product := none }

/-- One second more than the duration holds: the message, queued a nanosecond ago, is dropped as expired. -/
theorem expired_at_once :
    (validateMessage (sampleRequest (some 9223372037))).isOk = true ∧
    accepts.now < (withTTL 9223372037).queuedAt + 9223372037 * second ∧
    isExpired accepts (withTTL 9223372036) = false ∧ isExpired accepts (withTTL 9223372037) = true ∧
    callInvocations serverOrchestrator accepts (withTTL 9223372037) ⟨[], Dispatches.empty, []⟩ 0 = [] ∧
    ((process serverOrchestrator accepts ⟨[], Dispatches.empty, []⟩ (withTTL 9223372037) 0).1.table.get "t-1").map
      (fun r => (r.status, r.errorMessage)) = some ("failed", some "message expired (TTL)") ∧
    ¬Honoured accepts (withTTL 9223372037) 9223372037 := by
  have hexp : isExpired accepts (withTTL 9223372037) = true := by decide +kernel
  have hearly : accepts.now < (withTTL 9223372037).queuedAt + 9223372037 * second := by decide
  refine ⟨by decide +kernel, hearly, by decide +kernel, hexp, by decide +kernel, by decide +kernel, fun h => ?_⟩
  exact absurd (h.agrees.mp hexp) (Int.lt_asymm hearly)

end PerGo.L4.TTLRange
