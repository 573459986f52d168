import Muxwire.Request.Query

/-!
# Frames of packed queries

* `Query.pack_eq` -- boxing aside, a query is packed by its code and its body.
* **`Query.pack_eq_ok_iff`** -- the frame of a query is the prefix, the header with its sync, and
  its body; there is one exactly if the body was appended and fits.
* `Query.pack_error` -- a query without a frame fails with an error of the query.
* `sync_of_pack` -- octets 10 to 14 of a frame are its sync.
-/

namespace Muxwire.Request

open Msgpack Wire

/-- Boxed or not, a query is packed by its code and its body. -/
theorem Query.pack_eq (q : Query) (sync : UInt32) (space : String) :
    q.pack sync space =
      match (q.appendBody space []).failure with
      | some e => .error (asQueryError e)
      | none => (build q.code sync (q.appendBody space []).buffer).mapError asQueryError := by
  induction q with
  | boxed inner ih => exact ih
  | _ => rfl

/-- The body of a request: the header, and what the query appended. -/
def requestBody (q : Query) (sync : UInt32) (space : String) : Octets :=
  requestHeader q.code sync ++ (q.appendBody space []).buffer

theorem length_requestBody (q : Query) (sync : UInt32) (space : String) :
    (requestBody q sync space).length = headerSize + (q.appendBody space []).buffer.length := by
  simp [requestBody]

/-- **The frame of a query.** -/
theorem Query.pack_eq_ok_iff {q : Query} {sync : UInt32} {space : String} {frame : Octets} :
    q.pack sync space = .ok frame
      ↔ (q.appendBody space []).failure = none ∧ (requestBody q sync space).length ≤ maxBody
        ∧ frame = encodePrefix (UInt32.ofNat (requestBody q sync space).length)
            ++ requestBody q sync space := by
  rw [pack_eq, length_requestBody]
  cases (q.appendBody space []).failure with
  | some e => simp
  | none =>
    simp only [build, announcedLength, true_and]
    by_cases h : headerSize + (q.appendBody space []).buffer.length ≤ maxBody
    · simp only [h, if_true, true_and]
      show Except.ok _ = _ ↔ _
      rw [Except.ok.injEq, requestBody]
      exact eq_comm
    · simp only [h, if_false, false_and, iff_false]
      exact nofun

theorem asQueryError_eq (e : Error) : ∃ text, Query.asQueryError e = .query text := by
  cases e <;> exact ⟨_, rfl⟩

/-- A query that cannot be packed fails with an error of the query. -/
theorem Query.pack_error {q : Query} {sync : UInt32} {space : String} {e : Error}
    (h : q.pack sync space = .error e) : ∃ text, e = .query text := by
  rw [pack_eq] at h
  split at h
  · cases h
    exact asQueryError_eq _
  · cases hb : build q.code sync (q.appendBody space []).buffer with
    | ok frame =>
      rw [hb] at h
      cases h
    | error e' =>
      rw [hb] at h
      cases h
      exact asQueryError_eq e'

/-- **Octets 10 to 14 of a frame are its sync**, most significant first. -/
theorem sync_of_pack {q : Query} {sync : UInt32} {space : String} {frame : Octets}
    (h : q.pack sync space = .ok frame) :
    (frame.drop 10).take 4 = Octets.bigEndian 4 sync.toNat := by
  obtain ⟨-, -, rfl⟩ := Query.pack_eq_ok_iff.mp h
  -- five octets of prefix and five of header stand before the sync
  have hp : (encodePrefix (UInt32.ofNat (requestBody q sync space).length)).length = 5 :=
    length_encodePrefix _
  rw [List.drop_append, List.drop_of_length_le (by omega), hp, List.nil_append, requestBody,
    requestHeader, List.append_assoc]
  show List.take 4 (Octets.bigEndian 4 sync.toNat ++ _) = _
  exact List.take_left' (Octets.length_bigEndian 4 sync.toNat)

end Muxwire.Request
