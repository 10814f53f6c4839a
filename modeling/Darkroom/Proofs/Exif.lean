import Darkroom.Exif
import Darkroom.Proofs.Admission
/-!
# EXIF blocks and the verdict

A block is read in two steps. Loading it may fail, in ways that are passed over. Looking a tag up fails on bytes that are
not whole values and on no bytes at all, and that is not passed over; but no entry of a directory that was loaded is like
that (`Entry.Whole`, `load_cases`). So every block can be read, whatever its bytes are (`read_eq`), and all that it tells
is a code. No two blocks lead to different verdicts on an image (`exif_cannot_sway`).
-/

namespace Darkroom

theorem Bytes.length_of_splitExact? {n : Nat} {b taken rest : Bytes} (h : b.splitExact? n = some (taken, rest)) :
    taken.length = n := by
  unfold splitExact? at h
  dsimp only at h
  split at h
  · next enough =>
    cases h
    exact enough
  · cases h

namespace Exif

/-! ## Whole entries -/

/-- One value or more of a known type, with all their bytes. -/
structure Entry.Whole (e : Entry) : Prop where
  known : unitSize? e.kind = some e.unit
  values : ∃ count, 0 < count ∧ e.data.length = count * e.unit

section
variable {order : ByteOrder} {block data : Bytes} {e : Entry}

theorem unitSize?_pos {kind unit : Nat} (h : unitSize? kind = some unit) : 0 < unit := by
  unfold unitSize? at h
  split at h <;> cases h <;> decide

theorem valueBytes?_length {size : Nat} {inPlace : Bytes} (h : valueBytes? order block size inPlace = some data) :
    0 < size ∧ data.length = size := by
  unfold valueBytes? at h
  split at h
  · cases h
  · next hsize =>
    obtain ⟨⟨taken, rest⟩, hsplit, rfl⟩ := Option.map_eq_some_iff.1 h
    exact ⟨Nat.pos_of_ne_zero hsize, Bytes.length_of_splitExact? hsplit⟩

theorem Entry.ofBytes?_whole {bytes : Bytes} (h : Entry.ofBytes? order block bytes = some e) : e.Whole := by
  obtain ⟨unit, known, h⟩ := Option.bind_eq_some_iff.1 h
  obtain ⟨data, hdata, h⟩ := Option.bind_eq_some_iff.1 h
  cases h
  obtain ⟨hpos, hlength⟩ := valueBytes?_length hdata
  exact ⟨known, _, Nat.pos_of_mul_pos_left hpos, hlength.trans (Nat.mul_comm ..)⟩

/-- Whatever the counts, types and offsets in the bytes say, what is kept is whole. -/
theorem entries_whole (count : Nat) (rest : Bytes) : ∀ e ∈ entries order block count rest, e.Whole := by
  induction count generalizing rest with
  | zero => exact fun _ h => absurd h List.not_mem_nil
  | succ count ih =>
    intro e he
    unfold entries at he
    split at he
    · cases he
    · next bytes rest _ =>
      rcases List.mem_append.1 he with here | later
      · exact Entry.ofBytes?_whole (Option.mem_toList.1 here)
      · exact ih rest e later

theorem directoryAt_whole (place : Nat) : ∀ e ∈ (directoryAt order block place).entries, e.Whole := by
  unfold directoryAt
  split
  · exact fun _ h => absurd h List.not_mem_nil
  · exact entries_whole _ _

theorem start_cases (order : ByteOrder) (head : Bytes) :
    (∃ f, start order head = .error f ∧ isPassedOver f.kind = true) ∨ ∃ place, start order head = .ok place := by
  unfold start
  dsimp only
  generalize (if head[2]? = some 0x2B then 8 else 4) = size
  split
  · exact .inr ⟨_, rfl⟩
  · exact .inl ⟨_, rfl, rfl⟩

/-- Loading a block fails in a way that is passed over, or leads to a directory of whole entries. -/
theorem load_cases (data : Bytes) : (∃ f, load data = .error f ∧ isPassedOver f.kind = true) ∨
    ∃ d, load data = .ok d ∧ ∀ e ∈ d.entries, e.Whole := by
  unfold load
  dsimp only
  generalize withoutAnnouncement (withoutAnnouncement data) = block
  split
  · exact .inr ⟨_, rfl, fun _ h => absurd h List.not_mem_nil⟩
  split
  · exact .inl ⟨_, rfl, rfl⟩
  · next order _ =>
    rcases start_cases order (block.take 8) with ⟨f, hstart, passed⟩ | ⟨place, hstart⟩
    · rw [hstart]
      exact .inl ⟨f, rfl, passed⟩
    · rw [hstart]
      exact .inr ⟨_, rfl, directoryAt_whole place⟩

/-! ## Looking up -/

/-- The bytes of a whole entry are values and nothing else, and there is a first one. -/
theorem Entry.Whole.first_eq (h : e.Whole) : e.first = .ok (e.data.take e.unit) := by
  obtain ⟨known, count, hcount, hlength⟩ := h
  have values : e.data.length / e.unit = count := by
    rw [hlength, Nat.mul_div_cancel _ (unitSize?_pos known)]
  unfold Entry.first
  dsimp only
  rw [values, if_neg (not_not.2 hlength), if_neg hcount.ne']

/-- What is loaded can be looked up. -/
theorem lookUp_eq {d : Directory} (whole : ∀ e ∈ d.entries, e.Whole) (tag : Nat) : d.lookUp tag =
    .ok ((d.entries.find? (·.tag = tag)).bind fun e => integer? d.order e.kind (e.data.take e.unit)) := by
  unfold Directory.lookUp
  cases found : d.entries.find? (·.tag = tag) with
  | none => rfl
  | some e =>
    dsimp only
    rw [(whole e (List.mem_of_find?_eq_some found)).first_eq]
    rfl

end

/-- Every block can be read, and tells the orientation that its directory holds, if it has one. -/
theorem read_eq (raw : Option Bytes) : read raw = .ok (raw.bind orientation?) := by
  unfold read
  split
  · rfl
  · rfl
  · next data _ =>
    rw [Option.bind_some, orientation?]
    rcases load_cases data with ⟨f, hload, passed⟩ | ⟨d, hload, whole⟩
    · rw [hload]
      exact if_pos passed
    · rw [hload]
      exact lookUp_eq whole orientationTag

/-! ## Blocks for every code -/

/-- A block with a single entry, the orientation as a short number. -/
def blockTelling (code : UInt16) : Bytes :=
  [0x49, 0x49, 0x2A, 0x00, 8, 0, 0, 0, 1, 0, 0x12, 0x01, 3, 0, 1, 0, 0, 0] ++ Bytes.ofNatLittle 2 code.toNat ++ [0, 0]

theorem read_blockTelling (code : UInt16) : read (some (blockTelling code)) = .ok (some code.toNat) := by
  have told : ∀ low high : UInt8, read (some ([0x49, 0x49, 0x2A, 0x00, 8, 0, 0, 0, 1, 0, 0x12, 0x01, 3, 0, 1, 0, 0, 0] ++
      [low, high] ++ [0, 0])) = .ok (some (low.toNat + 256 * high.toNat : Nat)) := by
    intro low high
    cbv
  have bytes : Bytes.ofNatLittle 2 code.toNat = [code.toNat.toUInt8, (code.toNat / 256).toUInt8] := by
    simp [Bytes.ofNatLittle, List.range_succ]
  have whole : code.toNat % 256 + 256 * (code.toNat / 256 % 256) = code.toNat := by
    have small := code.toNat_lt
    omega
  rw [blockTelling, bytes, told]
  simp [whole]

end Exif

/-! ## Main theorem -/

/-- No EXIF block fails to be read, though one can tell any code. Two images of one size and format get the same verdict,
whatever the blocks that come with them. -/
theorem exif_cannot_sway :
    (∀ code : UInt16, ∃ block, Exif.read (some block) = .ok (some code.toNat)) ∧
    ∀ (raw : Dimensions) (format : Format) (limits : Limits) (block block' : Option Bytes),
      ∃ code code', Exif.read block = .ok code ∧ Exif.read block' = .ok code' ∧
        SameVerdict (Header.verdict ⟨raw, format, code⟩ limits) (Header.verdict ⟨raw, format, code'⟩ limits) := by
  constructor
  · intro code
    exact ⟨_, Exif.read_blockTelling code⟩
  · intro raw format limits block block'
    exact ⟨_, _, Exif.read_eq block, Exif.read_eq block', Header.sameVerdict rfl rfl⟩

end Darkroom
