import Mathlib.Data.List.TakeWhile
import Muxwire.Proofs.Handshake
import Muxwire.Proofs.Pipeline.Course

/-!
# What an address says

An address names the remote part and, behind the first slash, a space; a session packs its queries
with that space unless its options have one.

* `Address.Reads text a` -- the two forms of an address; `Address.Faulty` -- everything else.
  `Address.reads_or_faulty` says that there is nothing more, `parts_of_reads` and `parts_of_faulty`
  that this is how addresses are read.
* `DefaultSpace` -- which space options and an address make.
* `PackedWith` -- what becomes of the queries that were routed in a run, for a space.
* **`parse_addresses`** -- an address is read exactly if it has one of the two forms, each as what
  wrote it, and a session of it packs every query that it routes with the space that the two make.
-/

namespace Muxwire.Client

open Mux Request

namespace Address

/-! ## 1. Forms -/

/-- The forms of an address, and the address that each is. -/
inductive Reads : String → Address → Prop where
  | plain {remote : String} (named : remote ≠ "") (free : '/' ∉ remote.toList) :
      Reads remote ⟨remote, none⟩
  /-- The space may hold more slashes. -/
  | spaced {remote space : String} (named : remote ≠ "") (free : '/' ∉ remote.toList)
      (filled : space ≠ "") : Reads (remote ++ "/" ++ space) ⟨remote, some space⟩

/-- What is no address, and why. A space that is missing counts before a remote part that is. -/
inductive Faulty : String → AddressFault → Prop where
  | nothing : Faulty "" (.missingHost "")
  | noSpace {remote : String} (free : '/' ∉ remote.toList) :
      Faulty (remote ++ "/") (.emptySpace (remote ++ "/"))
  | noRemote {space : String} (filled : space ≠ "") :
      Faulty ("/" ++ space) (.missingHost ("/" ++ space))

/-- **A text has one of the forms, or one of the faults.** -/
theorem reads_or_faulty (text : String) :
    (∃ a, Reads text a) ∨ ∃ fault, Faulty text fault := by
  by_cases slash : '/' ∈ text.toList
  · obtain ⟨front, back, parts, free⟩ := List.eq_append_cons_of_mem slash
    have whole : text = String.ofList front ++ "/" ++ String.ofList back := by
      rw [← String.toList_inj, parts]
      simp
    have free : '/' ∉ (String.ofList front).toList := by rwa [String.toList_ofList]
    generalize String.ofList front = remote at whole free
    generalize String.ofList back = space at whole
    subst whole
    by_cases filled : space = ""
    · subst filled
      rw [String.append_empty]
      exact .inr ⟨_, .noSpace free⟩
    by_cases named : remote = ""
    · subst named
      exact .inr ⟨_, .noRemote filled⟩
    · exact .inl ⟨_, .spaced named free filled⟩
  · by_cases named : text = ""
    · subst named
      exact .inr ⟨_, .nothing⟩
    · exact .inl ⟨_, .plain named slash⟩

/-! ## 2. How they are read -/

theorem ne_separator {cs : List Char} (free : '/' ∉ cs) : ∀ c ∈ cs, (c != separator) = true := by
  intro c hc
  refine bne_iff_ne.mpr ?_
  rintro rfl
  exact free hc

/-- Without a slash there is no space. -/
theorem splitSpace_of_free {cs : List Char} (free : '/' ∉ cs) : splitSpace cs = (cs, none) := by
  have none : cs.dropWhile (· != separator) = [] :=
    List.dropWhile_eq_nil_iff.mpr (ne_separator free)
  rw [splitSpace, none]

/-- The first slash divides. -/
theorem splitSpace_append {front : List Char} (free : '/' ∉ front) (back : List Char) :
    splitSpace (front ++ '/' :: back) = (front, some back) := by
  have pass := ne_separator free
  rw [splitSpace, List.dropWhile_append_of_pos pass, List.takeWhile_append_of_pos pass]
  simp [separator]

theorem toList_spaced (remote space : String) :
    (remote ++ "/" ++ space).toList = remote.toList ++ '/' :: space.toList := by
  simp

/-- **Each form is read as its address.** -/
theorem parts_of_reads {text : String} {a : Address} (h : Reads text a) : parts text = .ok a := by
  cases h with
  | plain named free =>
    obtain ⟨c, cs, hc⟩ := List.exists_cons_of_ne_nil (mt String.toList_eq_nil_iff.mp named)
    rw [parts, splitSpace_of_free free, hc]
    simp [← hc]
  | @spaced remote space named free filled =>
    obtain ⟨c, cs, hc⟩ := List.exists_cons_of_ne_nil (mt String.toList_eq_nil_iff.mp named)
    obtain ⟨d, ds, hd⟩ := List.exists_cons_of_ne_nil (mt String.toList_eq_nil_iff.mp filled)
    rw [parts, toList_spaced, splitSpace_append free, hc, hd]
    simp [← hc, ← hd]

/-- **A text in neither form fails by the fault that it has.** -/
theorem parts_of_faulty {text : String} {fault : AddressFault} (h : Faulty text fault) :
    parts text = .error fault := by
  cases h with
  | nothing => rfl
  | @noSpace remote free =>
    have whole : (remote ++ "/").toList = remote.toList ++ '/' :: [] := by simp
    rw [parts, whole, splitSpace_append free]
  | @noRemote space filled =>
    obtain ⟨c, cs, hc⟩ := List.exists_cons_of_ne_nil (mt String.toList_eq_nil_iff.mp filled)
    have whole : ("/" ++ space).toList = [] ++ '/' :: space.toList := by simp
    rw [parts, whole, splitSpace_append List.not_mem_nil, hc]

theorem parts_eq_ok_iff {text : String} {a : Address} : parts text = .ok a ↔ Reads text a := by
  refine ⟨fun h => ?_, parts_of_reads⟩
  rcases reads_or_faulty text with ⟨b, reads⟩ | ⟨fault, faulty⟩
  · cases h.symm.trans (parts_of_reads reads)
    exact reads
  · cases h.symm.trans (parts_of_faulty faulty)

theorem parts_eq_error_iff {text : String} {fault : AddressFault} :
    parts text = .error fault ↔ Faulty text fault := by
  refine ⟨fun h => ?_, parts_of_faulty⟩
  rcases reads_or_faulty text with ⟨a, reads⟩ | ⟨other, faulty⟩
  · cases h.symm.trans (parts_of_reads reads)
  · cases h.symm.trans (parts_of_faulty faulty)
    exact faulty

/-- **An address is read exactly if it has one of the two forms.** -/
theorem parse_eq_ok_iff {text : String} {a : Address} :
    parse text = .ok a ↔ Reads text a := by
  rw [← parts_eq_ok_iff, parse]
  cases parts text with
  | ok b => simp [Except.mapError]
  | error fault => simp [Except.mapError]

theorem parse_eq_error_iff {text : String} {e : Error} :
    parse text = .error e ↔ ∃ fault, Faulty text fault ∧ e = .invalidAddress fault.message := by
  simp only [← parts_eq_error_iff, parse]
  cases parts text with
  | ok b => simp [Except.mapError]
  | error fault => simp [Except.mapError, eq_comm]

/-- What was read is written as it was. -/
theorem text_of_reads {text : String} {a : Address} (h : Reads text a) : a.text = text := by
  cases h with
  | plain => rfl
  | spaced => rfl

end Address

/-! ## 3. The space of a session -/

/-- The space that options and an address make. -/
inductive DefaultSpace (o : Options) (a : Address) : String → Prop where
  /-- What is set counts, even if it is empty. -/
  | chosen {space : String} (set : o.defaultSpace = some space) : DefaultSpace o a space
  /-- Where nothing is set the space of the address counts. -/
  | suffix {space : String} (unset : o.defaultSpace = none) (named : a.space = some space) :
      DefaultSpace o a space
  /-- Where the address names none either it is the empty space. -/
  | empty (unset : o.defaultSpace = none) (unnamed : a.space = none) : DefaultSpace o a ""

theorem defaultSpace_effectiveSpace (o : Options) (a : Address) :
    DefaultSpace o a (Connection.effectiveSpace o a) := by
  unfold Connection.effectiveSpace
  cases set : o.defaultSpace with
  | some space => exact .chosen set
  | none =>
    cases named : a.space with
    | some space => exact .suffix set named
    | none => exact .empty set named

/-- What became of the queries that were routed, for a space. -/
structure PackedWith (space : String) (log : Log) (p : Pipeline) : Prop where
  /-- The frames that were queued for the server, and the one that waits for room, are those of the
  routed queries with that space, in the order in which they were routed. None is missing as long as
  the stage runs. -/
  frames : Dispatch.Front (p.dispatch.phase ≠ .ended)
    (log.forwarded ++ p.dispatch.phase.parked) (log.frames space)
  /-- A query that cannot be packed with that space was answered with what is wrong with it. -/
  errors : ∀ sync s e, (sync, s) ∈ log.accepted → s.query.pack sync space = .error e →
    p.dispatch.ledger.deliveries s.ticket = [.error e]

/-- A connection that was opened has the space of its options and its address. -/
theorem space_of_establish {text : String} {a : Address} {o : Options} {c : Capacities}
    {staysOpen : Bool} {s : Wire.Source} {connection : Connection}
    (ha : Address.parse text = .ok a)
    (h : Connection.establish text o c staysOpen s = .ok connection) :
    connection.space = Connection.effectiveSpace o a
      ∧ ∃ e, connection.pipeline = Connection.pipelineOf c connection.space e := by
  rw [establish_eq ha] at h
  cases he : Handshake.outcome o.normalized staysOpen s with
  | error e =>
    rw [he] at h
    cases h
  | ok e =>
    rw [he] at h
    cases h
    exact ⟨rfl, e, rfl⟩

/-- **A session packs every query that it routes with its space.** -/
theorem packedWith_of_run {c : Capacities} {space : String} {e : Established} {log : Log}
    {p : Pipeline} (run : Pipeline.Run (Connection.pipelineOf c space e) log p) :
    PackedWith space log p := by
  have blank := Dispatch.blank_new c.submissions c.responses c.outbound
    (Intake.ofSizes c.responses c.divisor) space e.counter
  -- the stream that is left does not matter to the dispatch stage, which starts blank
  have start : Pipeline.Sound _ [] (Connection.pipelineOf c space e) :=
    ⟨.start, fun _ => nofun, List.nodup_nil⟩
  have exits : Pipeline.Exits (Connection.pipelineOf c space e) := ⟨nofun, nofun⟩
  have course := (start.run exits blank run).course
  exact ⟨(course.inOrder blank).forwarded, fun _ _ _ => course.deliveries_of_unpackable blank⟩

/-! ## 4. Addresses -/

/-- What a text says as an address. -/
structure Addresses (text : String) : Prop where
  /-- It is read exactly if it has one of the two forms, as what the form says. -/
  accepted : ∀ a, Address.parse text = .ok a ↔ Address.Reads text a
  /-- It fails exactly for the fault that it has. -/
  refused : ∀ e, Address.parse text = .error e
    ↔ ∃ fault, Address.Faulty text fault ∧ e = .invalidAddress fault.message
  other : (∀ a, ¬ Address.Reads text a) →
    ∃ fault : AddressFault, Address.parse text = .error (.invalidAddress fault.message)
  /-- What is read is written as it was. -/
  rejoined : ∀ a, Address.parse text = .ok a → a.text = text
  /-- No two texts are read as the same address. -/
  injective : ∀ text' a, Address.parse text = .ok a → Address.parse text' = .ok a → text' = text
  /-- Whatever the options, a session of the address has the space that both make, and packs every
  query that it routes with it, in every run. -/
  session : ∀ a o c staysOpen s connection, Address.parse text = .ok a →
    Connection.establish text o c staysOpen s = .ok connection →
    DefaultSpace o a connection.space
      ∧ ∀ log p, Pipeline.Run connection.pipeline log p → PackedWith connection.space log p

/-- **Addresses are read as what was written, and their space is the one of the session** unless its
options have another. -/
theorem parse_addresses (text : String) : Addresses text := by
  have rejoined {text : String} {a : Address} (h : Address.parse text = .ok a) : a.text = text :=
    Address.text_of_reads (Address.parse_eq_ok_iff.mp h)
  refine ⟨?accepted, ?refused, ?other, ?rejoined, ?injective, ?session⟩
  case accepted => exact fun a => Address.parse_eq_ok_iff
  case refused => exact fun e => Address.parse_eq_error_iff
  case other =>
    intro none
    rcases Address.reads_or_faulty text with ⟨a, reads⟩ | ⟨fault, faulty⟩
    · exact absurd reads (none a)
    · exact ⟨fault, Address.parse_eq_error_iff.mpr ⟨fault, faulty, rfl⟩⟩
  case rejoined => exact fun a h => rejoined h
  case injective =>
    intro text' a h h'
    rw [← rejoined h, ← rejoined h']
  case session =>
    intro a o c staysOpen s connection ha h
    obtain ⟨space, e, pipeline⟩ := space_of_establish ha h
    refine ⟨space ▸ defaultSpace_effectiveSpace o a, fun log p run => ?_⟩
    rw [pipeline] at run
    exact packedWith_of_run run

/-- A query whose body is the default space. -/
def askedSpace : Query :=
  .custom 1 fun space buffer => ⟨buffer ++ Query.textOctets space, none⟩

/-- The handshake with a server that greets with spaces. -/
def blankOpening : Established :=
  ⟨.ofOctets (List.replicate 128 32), .new, .ofOctets [] 7 .eof⟩

/-- A session without options packs the query with the space of its address. -/
theorem parse_addresses_users : ∃ connection log p,
    Connection.establish "localhost:3301/users" {} {} false
        (.ofOctets (List.replicate 128 32) 7 .eof) = .ok connection
      ∧ DefaultSpace {} ⟨"localhost:3301", some "users"⟩ connection.space
      ∧ Pipeline.Run connection.pipeline log p
      ∧ log.forwarded = [[0xce, 0, 0, 0, 15, 0x82, 0, 1, 1, 0xce, 0, 0, 0, 1,
          0xa5, 117, 115, 101, 114, 115]]
      ∧ PackedWith "users" log p := by
  have address : Address.parse "localhost:3301/users" = .ok ⟨"localhost:3301", some "users"⟩ := rfl
  have opened : Connection.establish "localhost:3301/users" {} {} false
      (.ofOctets (List.replicate 128 32) 7 .eof)
      = .ok ⟨_, "users", _, blankOpening.greeting, Connection.pipelineOf {} "users" blankOpening⟩ :=
    rfl
  obtain ⟨space, packs⟩ := (parse_addresses _).session _ {} {} false _ _ address opened
  have run : Pipeline.Run (Connection.pipelineOf {} "users" blankOpening) _ _ := Logged.of_follow
    [.submit askedSpace, .dispatch .look, .dispatch .takeSubmission, .dispatch .forward] rfl
  exact ⟨_, _, _, opened, space, run, rfl, packs _ _ run⟩

end Muxwire.Client
