import CaptureFlow.Stream

/-!
# What a stream delivers

However a supply is cut into stretches, a stream of it hands out the same octets, and so
does every way of reading it. A read hands out a part of what is to come, which is empty
at the end only.
-/

namespace CaptureFlow

/-- The octets that a supply hands out before it ends well. -/
inductive Supply.Delivers : Supply → Bytes → Prop where
  /-- The last octets. -/
  | last (octets : Bytes) : Delivers (.last octets .clean) octets
  /-- A stretch in front of others. -/
  | stretch (octets : Bytes) (usesUp : Bool) {rest : Supply} {bytes : Bytes}
      (h : Delivers rest bytes) : Delivers (.stretch octets usesUp rest) (octets ++ bytes)

/-- No stretch of a supply uses up what lies ready of the file. -/
inductive Supply.IsReady : Supply → Prop where
  /-- The last octets. -/
  | last (octets : Bytes) (ending : Ending) : IsReady (.last octets ending)
  /-- A stretch behind which more lies ready. -/
  | stretch (octets : Bytes) {rest : Supply} (h : IsReady rest) :
      IsReady (.stretch octets false rest)

namespace Stream

/-- A stream delivers what is ready and what its supply delivers. -/
def Delivers (stream : Stream) (bytes : Bytes) : Prop :=
  ∃ behind, stream.supply.Delivers behind ∧ bytes = stream.ready ++ behind

/-- What a read of `request` octets hands out of those that are to come: a part of them,
which is empty at their end only, and a stream that delivers the rest. -/
def HandsOut (request : Nat) (bytes : Bytes) : Except ReadFault Bytes × Stream → Prop
  | (.ok front, next) => ∃ rest, next.Delivers rest ∧ bytes = front ++ rest ∧
      front.length ≤ request ∧ (front = [] → rest = [])
  | (.error _, _) => False

/-- Octets that lie ready are delivered. -/
theorem delivers_ofBytes (bytes : Bytes) : (ofBytes bytes).Delivers bytes :=
  ⟨[], .last [], (List.append_nil bytes).symm⟩

/-- Cutting off a part that is asked for leaves the rest. -/
theorem handsOut_take {request : Nat} (hrequest : 0 < request) {gathered behind : Bytes}
    {supply : Supply} (h : supply.Delivers behind) (hempty : gathered = [] → behind = []) :
    HandsOut request (gathered ++ behind)
      (.ok (gathered.take request), ⟨gathered.drop request, supply⟩) := by
  refine ⟨gathered.drop request ++ behind, ⟨behind, h, rfl⟩, ?_, List.length_take_le _ _, ?_⟩
  · rw [← List.append_assoc, List.take_append_drop]
  · intro hfront
    rcases List.take_eq_nil_iff.mp hfront with hzero | hgathered
    · exact absurd hzero (Nat.ne_of_gt hrequest)
    · rw [hempty hgathered, hgathered, List.drop_nil, List.append_nil]

/-- A read that has gathered something hands it out in front of what its supply delivers. -/
theorem gather_of_delivers {request : Nat} (hrequest : 0 < request) {supply : Supply}
    {behind : Bytes} (h : supply.Delivers behind) (gathered : Bytes) :
    HandsOut request (gathered ++ behind) (gather request gathered supply) := by
  induction h generalizing gathered with
  | last octets =>
    have hlast : HandsOut request (gathered ++ octets ++ []) _ :=
      handsOut_take hrequest (.last []) fun _ => rfl
    rw [List.append_nil] at hlast
    rw [gather, readLast]
    · exact hlast
    · intro fault _ hfault
      cases hfault
  | stretch octets usesUp hrest ih =>
    rename_i rest bytes
    rw [gather, ← List.append_assoc]
    split
    · rename_i hready
      apply handsOut_take hrequest hrest
      intro hgathered
      rcases hready with hlong | hnonempty
      · rw [hgathered, List.length_nil] at hlong
        omega
      · exact absurd hgathered hnonempty.2
    · exact ih (gathered ++ octets)

/-- A read of a supply that lies ready as a whole hands out all that is asked for. -/
theorem gather_of_isReady {request : Nat} {supply : Supply} {behind : Bytes}
    (h : supply.Delivers behind) (hready : supply.IsReady) (gathered : Bytes) :
    (gather request gathered supply).1 = .ok ((gathered ++ behind).take request) := by
  induction h generalizing gathered with
  | last octets =>
    rw [gather, readLast]
    intro fault _ hfault
    cases hfault
  | stretch octets usesUp hrest ih =>
    cases hready with
    | stretch _ hready =>
      rw [gather, ← List.append_assoc]
      split
      · rename_i henough
        have hlong : request ≤ (gathered ++ octets).length := by
          rcases henough with hlong | hover
          · exact hlong
          · cases hover.1
        rw [List.take_append_of_le_length hlong]
      · exact ih hready (gathered ++ octets)

/-- A read hands out a part of what a stream delivers. -/
theorem read_of_delivers {request : Nat} (hrequest : 0 < request) {stream : Stream}
    {bytes : Bytes} (h : stream.Delivers bytes) :
    HandsOut request bytes (stream.read request) := by
  obtain ⟨ready, supply⟩ := stream
  obtain ⟨behind, hsupply, rfl⟩ := h
  cases ready with
  | nil => exact gather_of_delivers hrequest hsupply []
  | cons b ready => exact handsOut_take hrequest hsupply fun hnil => nomatch hnil

/-- A read that hands out nothing ends the reading. -/
theorem drainFrom_of_read_nil {request : Nat} {stream : Stream}
    (h : (stream.read request).1 = .ok []) (done : Array UInt8) :
    drainFrom request done stream = (done.toList, none) := by
  rw [drainFrom]
  split
  · rename_i hread
    rw [hread] at h
    cases h
  · rfl
  · rename_i hread
    rw [hread] at h
    cases h

/-- Reading goes on behind what a read hands out. -/
theorem drainFrom_of_read_cons {request : Nat} {stream next : Stream} {b : UInt8} {bytes : Bytes}
    (h : stream.read request = (.ok (b :: bytes), next)) (done : Array UInt8) :
    drainFrom request done stream = drainFrom request (done ++ (b :: bytes)) next := by
  rw [drainFrom]
  split
  · rename_i hread
    rw [hread] at h
    cases h
  · rename_i hread
    rw [hread] at h
    cases h
  · rename_i hread
    rw [hread] at h
    cases h
    rfl

/-- Reading goes on to all that a stream delivers, without a fault. -/
theorem drainFrom_of_delivers {request : Nat} (hrequest : 0 < request) {stream : Stream}
    {bytes : Bytes} (h : stream.Delivers bytes) (done : Array UInt8) :
    stream.drainFrom request done = (done.toList ++ bytes, none) := by
  induction hlength : bytes.length using Nat.strongRecOn generalizing stream bytes done with
  | _ n ih =>
    have hread := read_of_delivers hrequest h
    cases hresult : stream.read request with
    | mk result next =>
      rw [hresult] at hread
      cases result with
      | error fault => exact absurd hread id
      | ok front =>
        obtain ⟨rest, hnext, hbytes, -, hend⟩ := hread
        subst hbytes
        cases front with
        | nil =>
          rw [drainFrom_of_read_nil (by rw [hresult]), hend rfl, List.append_nil,
            List.append_nil]
        | cons b front =>
          have hshorter : rest.length < n := by
            rw [← hlength, List.length_append, List.length_cons]
            omega
          rw [drainFrom_of_read_cons hresult, ih rest.length hshorter hnext _ rfl,
            Array.toList_appendList, List.append_assoc]

/-- Reading yields all that a stream delivers, without a fault. -/
theorem drain_of_delivers {request : Nat} (hrequest : 0 < request) {stream : Stream}
    {bytes : Bytes} (h : stream.Delivers bytes) : stream.drain request = (bytes, none) := by
  rw [drain, drainFrom_of_delivers hrequest h]
  rfl

/-- The first octets of a stream are the first of those that it delivers. -/
theorem front_of_delivers {stream : Stream} {bytes : Bytes} (h : stream.Delivers bytes)
    (count : Nat) : stream.front count = .ok (bytes.take count) := by
  induction count using Nat.strongRecOn generalizing stream bytes with
  | _ count ih =>
    cases count with
    | zero => rw [Stream.front, List.take_zero]
    | succ count =>
      have hread := read_of_delivers (Nat.succ_pos count) h
      cases hresult : stream.read (count + 1) with
      | mk result next =>
        rw [hresult] at hread
        cases result with
        | error fault => exact absurd hread id
        | ok front =>
          obtain ⟨rest, hnext, hbytes, hlength, hend⟩ := hread
          subst hbytes
          cases front with
          | nil => rw [Stream.front, hresult, hend rfl]; rfl
          | cons b front =>
            have hshorter : count - front.length < count + 1 := by omega
            rw [Stream.front, hresult]
            dsimp only
            rw [ih _ hshorter hnext, List.take_append, List.take_of_length_le hlength,
              List.length_cons, Nat.add_sub_add_right]
            rfl

end Stream

end CaptureFlow
