import MacroStream.Script.Frame

/-!
# Memory in use

An interpreter with a memory limit has to know what its values take, once more has been asked for
than there is. Values that nothing leads to take nothing: what is in use is found by going from the
roots along all references. Equal strings are counted once.

The sizes are estimates: 16 bytes for an item of an array, 40 for another entry of a table or a
variable, and a fixed part for each object.
-/

namespace MacroStream.Script.Memory

/-- What was found so far: the bytes, and what has been seen. -/
structure Tally where
  bytes : Nat := 0
  seen : KeyMap := {}
  /-- Values whose references have not been followed. -/
  pending : List Value := []

/-- The bytes that a value takes by itself, and the values that it refers to. -/
def parts (h : Heap) (v : Value) : Nat × List Value :=
  match v with
  | .str s => (s.size + 24, [])
  | .table a =>
    let t := h.table a
    let owner : List Value := (t.metatable.map fun m ↦ [Value.table m]).getD []
    let entries := t.toList
    let size := entries.foldl (fun n (k, _) ↦
      match k with
      | .int _ => n + 16
      | _ => n + 40) 56
    (size, owner ++ entries.flatMap fun (k, v) ↦ [k.toValue, v])
  | .function a =>
    match h.function? a with
    | some (.script _ captured) =>
      (40 + 40 * captured.size, captured.toList.map h.cell)
    | some (.resumer t) => (40, [.thread t])
    | some (.matches subject pattern _) => (40, [.str subject, .str pattern])
    | some (.lines file formats _) => (40, .userdata file :: formats)
    | _ => (40, [])
  | .thread a =>
    match h.threadStatus a with
    | .fresh f => (200, [f])
    | .failed e => (200, [e])
    | _ => (200, [])
  | .userdata _ => (64, [])
  | _ => (0, [])

/-- Follows references, at most `fuel` of them. -/
def follow (h : Heap) : Nat → Tally → Nat
  | 0, t => t.bytes
  | fuel + 1, t =>
    match t.pending with
    | [] => t.bytes
    | v :: rest =>
      match v.toKey? with
      | none => follow h fuel { t with pending := rest }
      | some k =>
        if (t.seen.find? k).isSome then follow h fuel { t with pending := rest }
        else
          let (n, values) := parts h v
          if n = 0 then follow h fuel { t with pending := rest }
          else follow h fuel ⟨t.bytes + n, t.seen.insert k (.bool true), values ++ rest⟩

/-- The values that a frame refers to. -/
def ofFrame (h : Heap) (f : Frame) : List Value :=
  match f.activation with
  | some a =>
    f.function :: a.varargs ++ (a.scope.map fun (_, c) ↦ h.cell c) ++ a.captured.toList.map h.cell
  | none => [f.function]

/-- The bytes in use when the given frames have not returned. -/
def inUse (h : Heap) (frames : List Frame) : Nat :=
  let r := h.registry
  let roots : List Value :=
    [.table r.globals, .table r.loaded, .table r.preload, .table r.package, .table r.fileMeta,
      .table r.arrayMeta] ++ h.typeMetas.map fun (_, m) ↦ .table m
  let frameBytes := frames.foldl (fun n f ↦ n + 16 * (f.activation.map fun a ↦
    a.info.frameSize + a.varargs.length).getD 4) 0
  follow h 1000000000000 ⟨frameBytes, {}, roots ++ frames.flatMap (ofFrame h)⟩

end MacroStream.Script.Memory
