import Muxwire.Error
import Muxwire.Msgpack.Decode
import Muxwire.Msgpack.Shape

/-!
# Octets in a shape

`Shape.decode` reads data in a shape straight from octets, without a value between. The rules are
those of `Shape.ofValue`, but for four:

* the reserved marker is no value;
* a binary is also a list of its octets, and a tuple of its first ones;
* the position of a field, as a key, must be in an unsigned form;
* what may be nested is arrays, maps and extensions, up to `depthLimit` of them.

What follows the data stays unread.
-/

namespace Muxwire.Msgpack

/-- Why octets do not hold data of a shape. -/
inductive Misfit where
  | unreadable (fault : ReadFault)
  | unfit
  deriving DecidableEq, Repr

/-- How many arrays, maps and extensions may stand one in the other. -/
def depthLimit : Nat := 1023

/-- A reader whose faults make the octets unreadable. -/
def plain {α : Type} (r : Reader ReadFault α) : Reader Misfit α := fun bs =>
  (r bs).mapError .unreadable

namespace Value

/-- Reads one value that may nest `depth` containers. -/
def readStrict (depth : Nat) : Reader Misfit Value := fun bs => do
  let (head, rest) ← plain Head.read bs
  match head with
  | .reserved => .error .unfit
  | .nil => pure (.nil, rest)
  | .bool b => pure (.bool b, rest)
  | .int n => pure (.int n, rest)
  | .f32 word => pure (.f32 word, rest)
  | .f64 word => pure (.f64 word, rest)
  | .str n =>
    let (octets, rest) ← plain (readContent n) rest
    pure (.str octets, rest)
  | .bin n =>
    let (octets, rest) ← plain (readContent n) rest
    pure (.bin octets, rest)
  | .ext n =>
    match depth, rest with
    | 0, _ => .error (.unreadable .tooDeep)
    | _, [] => .error (.unreadable .dataMissing)
    | _, type :: rest =>
      let (octets, rest) ← plain (readContent n) rest
      pure (.ext type.toInt8 octets, rest)
  | .array n =>
    match depth with
    | 0 => .error (.unreadable .tooDeep)
    | inner + 1 =>
      let (items, rest) ← readMany (readStrict inner) n [] rest
      pure (.array items, rest)
  | .map n =>
    match depth with
    | 0 => .error (.unreadable .tooDeep)
    | inner + 1 =>
      let (entries, rest) ← readMany (readPair (readStrict inner) (readStrict inner)) n [] rest
      pure (.map entries, rest)

end Value

namespace Shape

/-- Data, or the misfit of having none. -/
def fit (t : Option Typed) (rest : Octets) : Except Misfit (Typed × Octets) :=
  match t with
  | some t => .ok (t, rest)
  | none => .error .unfit

/-- An octet of a binary as an item of a list. -/
def ofOctet? (s : Shape) (b : UInt8) : Option Typed :=
  match s with
  | .value => some (.value (.int (.ofUnsigned .one b.toNat)))
  | s => s.ofInt? b.toNat

/-- Reads what a scalar shape takes. -/
def readScalar (s : Shape) : Reader Misfit Typed := fun bs => do
  let (head, rest) ← plain Head.read bs
  match s, head with
  | .bool, .bool b => pure (.bool b, rest)
  | .unit, .nil => pure (.unit, rest)
  | s, .int n => fit (s.ofInt? n.val) rest
  | s, .f32 word => fit (s.ofSingle? word) rest
  | s, .f64 word => fit (s.ofDouble? word) rest
  | s, .str n =>
    let (octets, rest) ← plain (readContent n) rest
    fit (s.ofStr? octets) rest
  | s, .bin n =>
    let (octets, rest) ← plain (readContent n) rest
    fit (s.ofBin? octets) rest
  | _, _ => .error .unfit

/-- Reads one item with each reader. -/
def readEach : List (String × Reader Misfit Typed) → Reader Misfit (List (String × Typed))
  | [], bs => .ok ([], bs)
  | (name, r) :: readers, bs => do
    let (t, rest) ← r bs
    let (ts, rest) ← readEach readers rest
    pure ((name, t) :: ts, rest)

/-- The reader of the field that a key means, with the position of the field. -/
def fieldReader? (key : FieldKey) (i : Nat) :
    List (String × Reader Misfit Typed) → Option (Nat × Reader Misfit Typed)
  | [] => none
  | (name, r) :: readers =>
    if key.means name i then some (i, r) else fieldReader? key (i + 1) readers

/-- Reads the key of an entry of a record. A number with a sign is no position, whichever it is. -/
def readFieldKey (depth : Nat) : Reader Misfit FieldKey := fun bs => do
  let (key, rest) ← Value.readStrict depth bs
  match FieldKey.ofValue? key with
  | some key => if Head.isSigned (bs.headD 0) then .error .unfit else pure (key, rest)
  | none => .error .unfit

/-- Reads `n` entries into the fields they mean; other entries are skipped. `found` holds the data
of the fields read so far by position. -/
def readNamed (depth : Nat) (readers : List (String × Reader Misfit Typed)) :
    Nat → List (Nat × Typed) → Reader Misfit (List (Nat × Typed))
  | 0, found, bs => .ok (found, bs)
  | n + 1, found, bs => do
    let (key, rest) ← readFieldKey depth bs
    match fieldReader? key 0 readers with
    | none =>
      let (_, rest) ← Value.readStrict depth rest
      readNamed depth readers n found rest
    | some (i, r) =>
      if found.any (·.1 == i) then .error .unfit
      else
        let (t, rest) ← r rest
        readNamed depth readers n ((i, t) :: found) rest

/-- The fields of a record in order, if all of them were found. -/
def gather (found : List (Nat × Typed)) (i : Nat) :
    List (String × Reader Misfit Typed) → Option (List (String × Typed))
  | [] => some []
  | (name, _) :: readers => do
    let t ← found.lookup i
    let ts ← gather found (i + 1) readers
    some ((name, t) :: ts)

/-- The first octets of a binary as the items of a tuple. -/
def ofOctets? : List Shape → Octets → Option (List Typed)
  | [], _ => some []
  | _ :: _, [] => none
  | s :: ss, b :: bs => do
    let t ← ofOctet? s b
    let ts ← ofOctets? ss bs
    some (t :: ts)

/-- Reads the items of a tuple with one reader each, as an array of exactly as many items or as a
binary of at least as many octets. -/
def readTuple (ss : List Shape) (readers : List (String × Reader Misfit Typed)) :
    Reader Misfit (List Typed) := fun bs => do
  let (head, rest) ← plain Head.read bs
  match head with
  | .array n =>
    if n = readers.length then
      let (items, rest) ← readEach readers rest
      pure (items.map (·.2), rest)
    else .error .unfit
  | .bin n =>
    let (octets, rest) ← plain (readContent n) rest
    match ofOctets? ss octets with
    | some items => pure (items, rest)
    | none => .error .unfit
  | _ => .error .unfit

/-- Reads the fields of a record, as an array in order or as a map. -/
def readRecord (depth : Nat) (readers : List (String × Reader Misfit Typed)) :
    Reader Misfit (List (String × Typed)) := fun bs => do
  let (head, rest) ← plain Head.read bs
  match head with
  | .array n => if n = readers.length then readEach readers rest else .error .unfit
  | .map n =>
    let (found, rest) ← readNamed depth readers n [] rest
    match gather found 0 readers with
    | some fields => pure (fields, rest)
    | none => .error .unfit
  | _ => .error .unfit

/-- Reads `n` items with one reader, as an array of them or as a binary of `n` octets. -/
def readList (s : Shape) (item : Reader Misfit Typed) : Reader Misfit (List Typed) := fun bs => do
  let (head, rest) ← plain Head.read bs
  match head with
  | .array n => readMany item n [] rest
  | .bin n =>
    let (octets, rest) ← plain (readContent n) rest
    match octets.mapM (ofOctet? s) with
    | some items => pure (items, rest)
    | none => .error .unfit
  | _ => .error .unfit

/-- Reads a dictionary. -/
def readDict (item : Reader Misfit Typed) : Reader Misfit (List (String × Typed)) := fun bs => do
  let (head, rest) ← plain Head.read bs
  match head with
  | .map n =>
    let (entries, rest) ← readMany (readPair (readScalar .string) item) n [] rest
    let put (found : List (String × Typed)) (e : Typed × Typed) : List (String × Typed) :=
      match e.1 with
      | .string key => putEntry key e.2 found
      | _ => found
    pure (entries.foldl put [], rest)
  | _ => .error .unfit

/-- The reader of a container: none where nothing more may be nested. -/
def nested {α : Type} (depth : Nat) (r : Nat → Reader Misfit α) : Reader Misfit α :=
  match depth with
  | 0 => fun _ => .error (.unreadable .tooDeep)
  | inner + 1 => r inner

mutual

/-- The reader of a shape that may nest `depth` containers. -/
def reader (depth : Nat) : Shape → Reader Misfit Typed
  | .value => fun bs => do
    let (v, rest) ← Value.readStrict depth bs
    pure (.value v.sanitize, rest)
  | .option s => fun bs => do
    let (head, rest) ← plain Head.read bs
    if head = .nil then pure (.none, rest)
    else
      let (t, rest) ← reader depth s bs
      pure (.some t, rest)
  | .list s => fun bs => do
    let (items, rest) ← nested depth (fun inner => readList s (reader inner s)) bs
    pure (.list items, rest)
  | .tuple ss => fun bs => do
    let (items, rest) ← nested depth (fun inner => readTuple ss (itemReaders inner ss)) bs
    pure (.tuple items, rest)
  | .record fields => fun bs => do
    let (fields, rest) ←
      nested depth (fun inner => readRecord inner (fieldReaders inner fields)) bs
    pure (.record fields, rest)
  | .dict s => fun bs => do
    let (entries, rest) ← nested depth (fun inner => readDict (reader inner s)) bs
    pure (.dict entries, rest)
  | s => readScalar s

/-- The readers of the items of a tuple, which have no names. -/
def itemReaders (depth : Nat) : List Shape → List (String × Reader Misfit Typed)
  | [] => []
  | s :: ss => ("", reader depth s) :: itemReaders depth ss

/-- The readers of the fields of a record, by name. -/
def fieldReaders (depth : Nat) :
    List (String × Shape) → List (String × Reader Misfit Typed)
  | [] => []
  | (name, s) :: fields => (name, reader depth s) :: fieldReaders depth fields

end

/-- Data in a shape from the front of octets. -/
def decode (s : Shape) (bs : Octets) : Except Error Typed :=
  match s.reader depthLimit bs with
  | .ok (t, _) => .ok t
  | .error _ => .error .decode

end Shape

end Muxwire.Msgpack
