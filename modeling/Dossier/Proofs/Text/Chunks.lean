import Mathlib.Algebra.Order.Floor.Div
import Mathlib.Tactic.Common
import Mathlib.Tactic.Ring
import Dossier.Config.Check
import Dossier.Proofs.Text.Words
import Dossier.Text.Chunk

/-!
# Chunks cover a text

The windows over a list are known by their places: the window `i` begins `i` strides into the list
and holds a width of items, or what is left of them (`Text.eq_of_getElem?_windows`), there are just
as many windows as it takes to reach the end (`Text.length_windows`), and without what it shares
with the one before it every window goes on where that one ends (`Text.windows_join`).  So the
chunks of a text hold its words, each at its place in the text.
-/

namespace Dossier.Text

open Unicode

/-! ### Windows over a list -/

section Windows

variable {α : Type} {cfg : Chunking} {items window : List α} {i : Nat}

/-- How many items neighbouring windows share. -/
def Chunking.shared (cfg : Chunking) : Nat := min cfg.overlap (cfg.width - 1)

/-- A stride and what windows share make up a width. -/
lemma Chunking.stride_add_shared (cfg : Chunking) : cfg.stride + cfg.shared = cfg.width := by
  unfold Chunking.stride Chunking.shared
  omega

/-- Windows share less than their width. -/
lemma Chunking.shared_lt_width (cfg : Chunking) : cfg.shared < cfg.width := by
  have hadd := cfg.stride_add_shared
  have hpos := cfg.stride_pos
  omega

/-- A list that fits into one window is its only window. -/
lemma windows_of_le (h : items.length ≤ cfg.width) : windows cfg items = [items] := by
  have hnone : (items.drop cfg.width).isEmpty = true := by
    rw [List.isEmpty_iff, List.drop_eq_nil_iff]
    exact h
  unfold windows
  rw [if_pos hnone]

/-- A longer list has its first window, and the windows that begin a stride further on. -/
lemma windows_of_lt (h : cfg.width < items.length) :
    windows cfg items = items.take cfg.width :: windows cfg (items.drop cfg.stride) := by
  have hmore : ¬ (items.drop cfg.width).isEmpty = true := by
    rw [List.isEmpty_iff, List.drop_eq_nil_iff]
    omega
  conv_lhs => unfold windows
  rw [if_neg hmore]

/-- What holds of lists that fit into one window, and of a longer list whenever it holds of what
lies a stride further on, holds of every list. -/
lemma windows_induction {motive : List α → Prop} (cfg : Chunking)
    (single : ∀ items : List α, items.length ≤ cfg.width → motive items)
    (step : ∀ items : List α, cfg.width < items.length → motive (items.drop cfg.stride) →
      motive items) (items : List α) : motive items := by
  induction hlength : items.length using Nat.strongRecOn generalizing items with
  | ind n ih =>
    by_cases hle : items.length ≤ cfg.width
    · exact single items hle
    · have hpos := cfg.stride_pos
      have hshort : (items.drop cfg.stride).length < n := by
        rw [List.length_drop]
        omega
      exact step items (Nat.not_le.mp hle) (ih _ hshort _ rfl)

/-- Windows depend on their width and their stride only. -/
lemma windows_congr {cfg' : Chunking} (hwidth : cfg'.width = cfg.width)
    (hstride : cfg'.stride = cfg.stride) (items : List α) :
    windows cfg' items = windows cfg items := by
  induction items using windows_induction cfg with
  | single items hle => rw [windows_of_le hle, windows_of_le (hwidth ▸ hle)]
  | step items hlt ih =>
    rw [windows_of_lt hlt, windows_of_lt (hwidth ▸ hlt), hwidth, hstride, ih]

/-- One more stride is needed for what lies beyond the first one. -/
lemma ceilDiv_sub {n d : Nat} (hd : 0 < d) (hn : 0 < n) : n ⌈/⌉ d = 1 + (n - d) ⌈/⌉ d := by
  rw [Nat.ceilDiv_eq_add_pred_div, Nat.ceilDiv_eq_add_pred_div]
  by_cases hle : n ≤ d
  · have hone : (n + d - 1) / d = 1 := by
      rw [Nat.div_eq_iff hd]
      omega
    have hzero : (n - d + d - 1) / d = 0 := Nat.div_eq_of_lt (by omega)
    rw [hone, hzero]
  · have hsplit : n + d - 1 = n - d + d - 1 + d := by omega
    rw [hsplit, Nat.add_div_right _ hd, Nat.add_comm]

/-- There are as many windows as it takes to reach the end. -/
theorem length_windows (cfg : Chunking) (items : List α) :
    (windows cfg items).length = 1 + (items.length - cfg.width) ⌈/⌉ cfg.stride := by
  induction items using windows_induction cfg with
  | single items hle =>
    rw [windows_of_le hle, Nat.sub_eq_zero_of_le hle, zero_ceilDiv]
    rfl
  | step items hlt ih =>
    have hstep := ceilDiv_sub cfg.stride_pos (Nat.sub_pos_of_lt hlt)
    have hcomm : items.length - cfg.stride - cfg.width = items.length - cfg.width - cfg.stride := by
      omega
    rw [windows_of_lt hlt, List.length_cons, ih, List.length_drop, hcomm, hstep]
    omega

/-- A window begins as many strides into the list as there are windows before it, and holds a width
of items or what is left of them. -/
theorem eq_of_getElem?_windows (h : (windows cfg items)[i]? = some window) :
    window = (items.drop (i * cfg.stride)).take cfg.width := by
  induction items using windows_induction cfg generalizing i with
  | single items hle =>
    rw [windows_of_le hle] at h
    cases i with
    | zero =>
      have heq : items = window := by simpa using h
      rw [Nat.zero_mul, List.drop_zero, ← heq, List.take_of_length_le hle]
    | succ i => simp at h
  | step items hlt ih =>
    rw [windows_of_lt hlt] at h
    cases i with
    | zero =>
      have heq : items.take cfg.width = window := by simpa using h
      rw [Nat.zero_mul, List.drop_zero, heq]
    | succ i =>
      rw [List.getElem?_cons_succ] at h
      rw [ih h, List.drop_drop, Nat.succ_mul, Nat.add_comm]

/-- A window that is not the last one ends before the end of the list. -/
lemma mul_stride_add_lt (h : i + 1 < (windows cfg items).length) :
    i * cfg.stride + cfg.width < items.length := by
  rw [length_windows] at h
  by_contra hge
  have hceil : (items.length - cfg.width) ⌈/⌉ cfg.stride ≤ i := by
    rw [ceilDiv_le_iff_le_mul cfg.stride_pos, Nat.mul_comm]
    omega
  omega

/-- Every window of a list that has items begins before its end. -/
lemma mul_stride_lt (hitems : items ≠ []) (h : i < (windows cfg items).length) :
    i * cfg.stride < items.length := by
  cases i with
  | zero =>
    rw [Nat.zero_mul]
    exact List.length_pos_of_ne_nil hitems
  | succ i =>
    have hbefore := mul_stride_add_lt h
    have hle : cfg.stride ≤ cfg.width := Nat.sub_le _ _
    rw [Nat.succ_mul]
    omega

/-- The first window and what the others do not share with the one before them make up the list. -/
theorem windows_join (cfg : Chunking) (items : List α) :
    ((windows cfg items).take 1).flatten ++
      ((windows cfg items).drop 1).flatMap (List.drop cfg.shared) = items := by
  induction items using windows_induction cfg with
  | single items hle =>
    rw [windows_of_le hle]
    simp
  | step items hlt ih =>
    rw [windows_of_lt hlt]
    rcases hwindows : windows cfg (items.drop cfg.stride) with _ | ⟨second, rest⟩
    · have hlength := length_windows cfg (items.drop cfg.stride)
      rw [hwindows, List.length_nil] at hlength
      omega
    · have hsecond : second = (items.drop cfg.stride).take cfg.width := by
        have hfirst : (windows cfg (items.drop cfg.stride))[0]? = some second := by
          rw [hwindows]
          rfl
        have heq := eq_of_getElem?_windows hfirst
        rwa [Nat.zero_mul, List.drop_zero] at heq
      have hadd := cfg.stride_add_shared
      have hshared : cfg.shared ≤ second.length := by
        have hlt' := cfg.shared_lt_width
        rw [hsecond, List.length_take, List.length_drop]
        omega
      rw [hwindows] at ih
      simp only [List.take_succ_cons, List.take_zero, List.flatten_cons, List.flatten_nil,
        List.append_nil, List.drop_succ_cons, List.drop_zero, List.flatMap_cons] at ih ⊢
      have hbeyond : second.drop cfg.shared ++ rest.flatMap (List.drop cfg.shared) =
          items.drop cfg.width := by
        rw [← List.drop_append_of_le_length hshared, ih, List.drop_drop, hadd]
      rw [hbeyond, List.take_append_drop]

/-! ### Parts of a list -/

variable {first last : Nat}

/-- A part of a list begins with the item at its first place. -/
lemma head?_part (hlt : first < last) : ((items.take last).drop first).head? = items[first]? := by
  rw [List.head?_drop, List.getElem?_take, if_pos hlt]

/-- A part of a list ends with the item in front of its last place. -/
lemma getLast?_part (hlt : first < last) (hle : last ≤ items.length) :
    ((items.take last).drop first).getLast? = items[last - 1]? := by
  have hlength : ((items.take last).drop first).length = last - first := by
    rw [List.length_drop, List.length_take]
    omega
  have hplace : first + (last - first - 1) = last - 1 := by omega
  rw [List.getLast?_eq_getElem?, hlength, List.getElem?_drop, hplace, List.getElem?_take,
    if_pos (by omega)]

/-- A list is a part of it with what is in front of it and behind it. -/
lemma take_append_part_append (items : List α) (hle : first ≤ last) :
    items.take first ++ ((items.take last).drop first ++ items.drop last) = items := by
  have hfront := List.take_append_drop first (items.take last)
  rw [List.take_take, Nat.min_eq_left hle] at hfront
  rw [← List.append_assoc, hfront, List.take_append_drop]

end Windows

/-! ### Chunks of a text -/

variable {cfg : Chunking} {cs : List Char} {chunk : Chunk} {i : Nat}

/-- A chunk is the part of a text from one of its words up to, but without, another. -/
structure Chunk.Holds (chunk : Chunk) (cs : List Char) (first last : Nat) : Prop where
  /-- Its words are these words of the text. -/
  words : chunk.words = ((pieces cs).take last).drop first
  /-- Its words are counted. -/
  counted : chunk.tokenCount = chunk.words.length
  /-- It begins with the first byte of its first word. -/
  start : (tokens cs)[first]?.map Token.start = some chunk.start
  /-- It ends with the last byte of its last word. -/
  stop : (tokens cs)[last - 1]?.map Token.stop = some chunk.stop
  /-- It stands between two character boundaries, the other words in front of it and behind it. -/
  place : ∃ before after, cs = before ++ chunk.text ++ after ∧
    byteLength before = chunk.start ∧ byteLength (before ++ chunk.text) = chunk.stop ∧
    pieces before = (pieces cs).take first ∧ pieces after = (pieces cs).drop last
  /-- It begins and ends within a word. -/
  ends : (∀ c ∈ chunk.text.head?, isBlank c = false) ∧
    ∀ c ∈ chunk.text.getLast?, isBlank c = false

/-- The chunks of a text that has words are those of its windows. -/
lemma chunks_eq (h : tokens cs ≠ []) :
    chunks cfg cs = (windows cfg (tokens cs)).mapIdx (chunkOf cs) := by
  unfold chunks
  split
  · rename_i hnil
    exact absurd hnil h
  · rename_i first rest htokens
    rw [htokens]

/-- A chunk is that of a window over the words of its text. -/
lemma exists_window_of_getElem?_chunks (h : (chunks cfg cs)[i]? = some chunk) :
    tokens cs ≠ [] ∧ ∃ window, (windows cfg (tokens cs))[i]? = some window ∧
      chunk = chunkOf cs i window := by
  have hne : tokens cs ≠ [] := by
    intro hnil
    unfold chunks at h
    rw [hnil] at h
    simp at h
  rw [chunks_eq hne, List.getElem?_mapIdx] at h
  obtain ⟨window, hwindow, heq⟩ := Option.map_eq_some_iff.mp h
  exact ⟨hne, window, hwindow, heq.symm⟩

/-- How many words a text has. -/
lemma length_tokens (cs : List Char) : (tokens cs).length = (pieces cs).length := by
  rw [← words_eq_pieces, words, List.length_map]

/-- The chunk of the tokens from one place up to another holds their words. -/
lemma holds_chunkOf {window : List Token} {first last : Nat} (hlt : first < last)
    (hle : last ≤ (tokens cs).length) (hwindow : window = ((tokens cs).take last).drop first) :
    (chunkOf cs i window).Holds cs first last := by
  have hhead : window.head? = (tokens cs)[first]? := hwindow ▸ head?_part hlt
  have hlast : window.getLast? = (tokens cs)[last - 1]? := hwindow ▸ getLast?_part hlt hle
  have hne : window ≠ [] := by
    rintro rfl
    have hnone := List.getElem?_eq_none_iff.mp hhead.symm
    omega
  have hpieces : pieces cs = (tokens cs).map Token.chars := (Laid.of_tokens cs).pieces_eq
  have hlaid := Laid.of_tokens cs
  rw [← take_append_part_append (tokens cs) (Nat.le_of_lt hlt), ← hwindow] at hlaid
  obtain ⟨before, text, after, htext, hstart, hstop, hbefore, hwords, hafter, hends⟩ :=
    hlaid.exists_window hne
  rw [Nat.zero_add] at hstart hstop
  have heq : chunkOf cs i window = ⟨i, byteLength before, byteLength before + byteLength text,
      window.length, text⟩ := by
    unfold chunkOf
    rw [hstart, hstop]
    dsimp only [Option.getD_some]
    rw [htext, slice_append]
  have hown : Chunk.words (chunkOf cs i window) = window.map Token.chars := by
    rw [heq, Chunk.words, words_eq_pieces, hwords]
  refine { words := ?_, counted := ?_, start := ?_, stop := ?_, place := ?_, ends := ?_ }
  · rw [hown, hwindow, hpieces, List.map_drop, List.map_take]
  · rw [hown, List.length_map]
    rfl
  · rw [← hhead, hstart, heq]
  · rw [← hlast, hstop, heq]
  · rw [heq]
    refine ⟨before, after, htext, rfl, byteLength_append before text, ?_, ?_⟩
    · rw [hbefore, hpieces, List.map_take]
    · rw [hafter, hpieces, List.map_drop]
  · rw [heq]
    exact hends

/-- A chunk holds the words of its window. -/
lemma holds_of_getElem?_chunks (h : (chunks cfg cs)[i]? = some chunk) :
    chunk.index = i ∧ chunk.Holds cs (i * cfg.stride)
      (min (i * cfg.stride + cfg.width) (pieces cs).length) := by
  obtain ⟨hne, window, hwindow, rfl⟩ := exists_window_of_getElem?_chunks h
  obtain ⟨hi, -⟩ := List.getElem?_eq_some_iff.mp hwindow
  have hbegin := mul_stride_lt hne hi
  have hpos : 0 < cfg.width := Nat.lt_of_lt_of_le Nat.one_pos (Nat.le_max_right _ _)
  refine ⟨rfl, holds_chunkOf ?_ ?_ ?_⟩
  · rw [← length_tokens]
    omega
  · rw [← length_tokens]
    exact Nat.min_le_right _ _
  · rw [eq_of_getElem?_windows hwindow, List.take_drop, ← length_tokens, ← List.take_eq_take_min]

/-- There are as many chunks as it takes to reach the last word. -/
lemma length_chunks (cfg : Chunking) (cs : List Char) : (chunks cfg cs).length =
    if (pieces cs).length = 0 then 0
    else 1 + ((pieces cs).length - cfg.width) ⌈/⌉ cfg.stride := by
  rw [← length_tokens]
  by_cases hnil : tokens cs = []
  · unfold chunks
    rw [hnil]
    rfl
  · rw [chunks_eq hnil, List.length_mapIdx, length_windows, if_neg]
    rwa [List.length_eq_zero_iff]

/-- The words of the chunks, without those that are shared with the chunk before, are the words of
the text. -/
lemma chunks_join (cfg : Chunking) (cs : List Char) :
    ((chunks cfg cs).take 1).flatMap Chunk.words ++
      ((chunks cfg cs).drop 1).flatMap (fun chunk => chunk.words.drop cfg.shared) = pieces cs := by
  have hpieces : pieces cs = (tokens cs).map Token.chars := (Laid.of_tokens cs).pieces_eq
  by_cases hnil : tokens cs = []
  · have hnone : chunks cfg cs = [] := by
      unfold chunks
      rw [hnil]
    rw [hpieces, hnil, hnone]
    rfl
  · have hwords : (chunks cfg cs).map Chunk.words =
        (windows cfg (tokens cs)).map (List.map Token.chars) := by
      refine List.ext_getElem? fun i => ?_
      rw [List.getElem?_map, List.getElem?_map]
      rcases hchunk : (chunks cfg cs)[i]? with _ | chunk
      · rw [chunks_eq hnil, List.getElem?_mapIdx, Option.map_eq_none_iff] at hchunk
        rw [hchunk]
        rfl
      · obtain ⟨-, hholds⟩ := holds_of_getElem?_chunks hchunk
        obtain ⟨-, window, hwindow, -⟩ := exists_window_of_getElem?_chunks hchunk
        rw [hwindow, Option.map_some, Option.map_some, hholds.words,
          eq_of_getElem?_windows hwindow, List.take_drop, hpieces, List.length_map,
          ← List.map_take, ← List.map_drop, ← List.take_eq_take_min]
    have hjoin := congrArg (List.map Token.chars) (windows_join cfg (tokens cs))
    have hleft : ((chunks cfg cs).take 1).flatMap Chunk.words =
        (((chunks cfg cs).map Chunk.words).take 1).flatten := by
      rw [← List.map_take, List.flatMap_def]
    have hright : ((chunks cfg cs).drop 1).flatMap (fun chunk => chunk.words.drop cfg.shared) =
        (((chunks cfg cs).map Chunk.words).drop 1).flatMap (List.drop cfg.shared) := by
      rw [← List.map_drop, List.flatMap_map]
    rw [hleft, hright, hwords, hpieces, ← hjoin, List.map_append, List.map_flatten,
      List.map_flatMap, ← List.map_take, ← List.map_drop, List.flatMap_map]
    simp only [List.map_drop]

/-- Chunks begin and end one after the other. -/
lemma ascending_chunks (cfg : Chunking) (cs : List Char) :
    (chunks cfg cs).Pairwise fun a b => a.start < b.start ∧ a.stop < b.stop := by
  have hascending := List.pairwise_iff_getElem.mp (Laid.of_tokens cs).ascending
  refine List.pairwise_iff_getElem.mpr fun i j hi hj hij => ?_
  have hchunk := List.getElem?_eq_getElem hi
  have hchunk' := List.getElem?_eq_getElem hj
  obtain ⟨hne, window, hwindow, -⟩ := exists_window_of_getElem?_chunks hchunk'
  obtain ⟨hplace, -⟩ := List.getElem?_eq_some_iff.mp hwindow
  -- the chunk `i` is not the last one, so it ends before the last word
  have hnext : i + 1 < (windows cfg (tokens cs)).length := by omega
  have hends := mul_stride_add_lt hnext
  have hstrides : (i + 1) * cfg.stride ≤ j * cfg.stride := Nat.mul_le_mul_right _ hij
  have hpos := cfg.stride_pos
  have hwidth := cfg.stride_add_shared
  have hn := length_tokens cs
  rw [Nat.succ_mul] at hstrides
  obtain ⟨-, hholds⟩ := holds_of_getElem?_chunks hchunk
  obtain ⟨-, hholds'⟩ := holds_of_getElem?_chunks hchunk'
  obtain ⟨t, ht, hstart⟩ := Option.map_eq_some_iff.mp hholds.start
  obtain ⟨t', ht', hstart'⟩ := Option.map_eq_some_iff.mp hholds'.start
  obtain ⟨u, hu, hstop⟩ := Option.map_eq_some_iff.mp hholds.stop
  obtain ⟨u', hu', hstop'⟩ := Option.map_eq_some_iff.mp hholds'.stop
  obtain ⟨hlt, rfl⟩ := List.getElem?_eq_some_iff.mp ht
  obtain ⟨hlt', rfl⟩ := List.getElem?_eq_some_iff.mp ht'
  obtain ⟨hlast, rfl⟩ := List.getElem?_eq_some_iff.mp hu
  obtain ⟨hlast', rfl⟩ := List.getElem?_eq_some_iff.mp hu'
  rw [← hstart, ← hstart', ← hstop, ← hstop']
  refine ⟨(hascending _ _ hlt hlt' (by omega)).1, (hascending _ _ hlast hlast' ?_).2⟩
  omega

/-- Cutting an overlap below its window beforehand changes no chunk. -/
lemma chunks_congr {cfg' : Chunking} (hwidth : cfg'.width = cfg.width)
    (hstride : cfg'.stride = cfg.stride) (cs : List Char) : chunks cfg' cs = chunks cfg cs := by
  unfold chunks
  split
  · rfl
  · rw [windows_congr hwidth hstride]

/-- A configuration in its normal form makes the same chunks. -/
lemma chunks_normalChunking (cfg : ChunkingConfig) (cs : List Char) :
    chunks ⟨(Config.normalChunking cfg).windowTokens, (Config.normalChunking cfg).overlapTokens⟩ cs =
      chunks ⟨cfg.windowTokens, cfg.overlapTokens⟩ cs := by
  unfold Config.normalChunking
  by_cases hcut : 0 < cfg.windowTokens ∧ cfg.windowTokens ≤ cfg.overlapTokens
  · rw [if_pos hcut]
    apply chunks_congr
    · rfl
    · simp only [Chunking.stride, Chunking.width]
      omega
  · rw [if_neg hcut]

/-- For every text, window and overlap: the words of a text are its pieces between blanks; a text
without words has no chunk, a text of at most one window has one, and a longer text has as many as
it takes to reach its last word; a chunk has its place as its index and holds the words that begin
so many strides into the text, up to a window of them, where they stand in the text; without the
words that each shares with the one before it, the chunks are the words of the text; chunks begin
and end one after the other; and an overlap that is cut below the window beforehand, as a
configuration in its normal form does, changes no chunk. -/
theorem chunks_cover (window overlap : Nat) (cs : List Char) :
    let width := max window 1
    let shared := min overlap (width - 1)
    let stride := width - shared
    let n := (pieces cs).length
    let parts := chunks ⟨window, overlap⟩ cs
    let normal := Config.normalChunking ⟨window, overlap⟩
    words cs = pieces cs ∧
      parts.length = (if n = 0 then 0 else if n ≤ width then 1
        else 1 + (n - width) ⌈/⌉ stride) ∧
      (∀ (i : Nat) (chunk : Chunk), parts[i]? = some chunk →
        chunk.index = i ∧ chunk.Holds cs (i * stride) (min (i * stride + width) n)) ∧
      (parts.take 1).flatMap Chunk.words ++
        (parts.drop 1).flatMap (fun chunk => chunk.words.drop shared) = pieces cs ∧
      parts.Pairwise (fun a b => a.start < b.start ∧ a.stop < b.stop) ∧
      chunks ⟨window, shared⟩ cs = parts ∧
      chunks ⟨normal.windowTokens, normal.overlapTokens⟩ cs = parts := by
  intro width shared stride n parts normal
  have hlength : parts.length = if n = 0 then 0 else 1 + (n - width) ⌈/⌉ stride :=
    length_chunks ⟨window, overlap⟩ cs
  have hclamped : (⟨window, shared⟩ : Chunking).stride = (⟨window, overlap⟩ : Chunking).stride := by
    simp only [Chunking.stride, Chunking.width, shared, width]
    omega
  refine ⟨words_eq_pieces cs, ?_, fun i chunk h => holds_of_getElem?_chunks h,
    chunks_join ⟨window, overlap⟩ cs, ascending_chunks ⟨window, overlap⟩ cs,
    chunks_congr (by rfl) hclamped cs, chunks_normalChunking ⟨window, overlap⟩ cs⟩
  rw [hlength]
  by_cases hle : n ≤ width
  · rw [if_pos hle, Nat.sub_eq_zero_of_le hle, zero_ceilDiv, Nat.add_zero]
  · rw [if_neg hle]

example : (chunks ⟨2, 7⟩ "a bb  ccc".toList).map (fun chunk => (chunk.start, chunk.stop)) =
    [(0, 4), (2, 9)] := by
  decide +kernel

end Dossier.Text
