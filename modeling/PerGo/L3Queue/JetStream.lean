import PerGo.Core.DedupStream
import PerGo.L2Domain.Message

/-!
# JetStreamPublisher

`queue/jetstream.go`: which stream takes a subject, and the
`Nats-Msg-Id` header a publish carries. The server's dedup by that header is
`PerGo.Core.DedupStream`.
-/
namespace PerGo.L3

open PerGo.Core PerGo.L1 PerGo.L2

/-- The subject filters of every stream.
mirrors jetstream.go:34-36, 59-61, 82-84, 106-108, 221-223 -/
def streams : List (String × List String) :=
  [("MESSAGES", ["messages.outbound", "messages.outbound.>"]),
   ("WEBHOOKS", ["webhooks.events"]),
   ("WEBHOOK_DELIVERIES", ["webhooks.deliveries.>"]),
   ("INBOUND", ["inbound.events.>", "messages.events.>"]),
   ("CAMPAIGNS", ["campaigns.>"])]

/-- A filter that ends in `>` takes every subject below it, any other only itself. -/
def subjectMatches (filter subject : String) : Bool :=
  if hasSuffix filter ".>" then
    let base := filter.toList.dropLast
    base.isPrefixOf subject.toList && base.length < subject.toList.length
  else filter = subject

theorem subjectMatches_below {filter base rest : String} (hf : hasSuffix filter ".>" = true)
    (hb : filter.toList.dropLast = base.toList) (hr : 0 < rest.toList.length) :
    subjectMatches filter (base ++ rest) = true := by
  unfold subjectMatches
  rw [if_pos hf]
  simp only [hb, String.toList_append, Bool.and_eq_true, List.isPrefixOf_iff_prefix, decide_eq_true_eq,
    List.length_append]
  exact ⟨List.prefix_append _ _, by omega⟩

theorem subjectMatches_take {filter subject : String} (h : subjectMatches filter subject = true) {k : Nat}
    (hk : k ≤ filter.toList.length - 1) : subject.toList.take k = filter.toList.take k := by
  unfold subjectMatches at h
  split at h
  · simp only [Bool.and_eq_true, List.isPrefixOf_iff_prefix] at h
    obtain ⟨rest, hrest⟩ := h.1
    have hlen : k ≤ filter.toList.dropLast.length := by
      rw [List.length_dropLast]
      exact hk
    rw [← hrest, List.take_append_of_le_length hlen, List.dropLast_eq_take, List.take_take, Nat.min_eq_left hk]
  · rw [of_decide_eq_true h]

def streamOf (subject : String) : Option String :=
  (streams.find? fun s => s.2.any (subjectMatches · subject)).map (·.1)

/-- None of the streams sets `Duplicates`, so the server's default of two minutes applies. -/
def duplicateWindow : Int := 120 * second

/-- mirrors jetstream.go:197-209 -/
def publishMsg {π : Type} (subject : String) (data : π) (traceID : String) (now : Time) : DedupStream.Msg π :=
  { topic := streamOf subject, id := if traceID ≠ "" then some traceID else none, payload := data, time := now }

end PerGo.L3
