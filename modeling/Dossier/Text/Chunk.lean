import Dossier.Text.Words

/-!
# Chunks

A text is cut into overlapping windows of words.  Each window but the last holds `window` words, and
neighbouring windows begin `window - overlap` words apart.  A chunk is the part of the text from the
first byte of its first word to the last byte of its last word.
-/

namespace Dossier.Text

/-- How texts are cut: words in a window, and words that neighbouring windows share. -/
structure Chunking where
  window : Nat
  overlap : Nat
deriving DecidableEq

namespace Chunking

/-- Windows of 512 words that share 50. -/
def standard : Chunking := ⟨512, 50⟩

/-- The words in a window, at least one. -/
def width (cfg : Chunking) : Nat := max cfg.window 1

/-- The words between the beginnings of neighbouring windows, at least one. -/
def stride (cfg : Chunking) : Nat := cfg.width - min cfg.overlap (cfg.width - 1)

theorem stride_pos (cfg : Chunking) : 0 < cfg.stride := by
  unfold stride width
  omega

end Chunking

/-- A part of a text: its place among the parts, its byte offsets, its number of words, and its
characters. -/
structure Chunk where
  index : Nat
  start : Nat
  stop : Nat
  tokenCount : Nat
  text : List Char
deriving DecidableEq

/-- The windows over a list that is not empty: each holds `width` items or reaches the end. -/
def windows {α : Type} (cfg : Chunking) (items : List α) : List (List α) :=
  if (items.drop cfg.width).isEmpty then [items]
  else items.take cfg.width :: windows cfg (items.drop cfg.stride)
termination_by items.length
decreasing_by
  rename_i h
  rw [List.isEmpty_iff, List.drop_eq_nil_iff] at h
  have := cfg.stride_pos
  rw [List.length_drop]
  omega

/-- The chunk of a text that covers a window of its tokens. -/
def chunkOf (cs : List Char) (index : Nat) (window : List Token) : Chunk :=
  let start := (window.head?.map Token.start).getD 0
  let stop := (window.getLast?.map Token.stop).getD 0
  ⟨index, start, stop, window.length, slice start stop cs⟩

/-- The chunks of a text in order; a text without words has none. -/
def chunks (cfg : Chunking) (cs : List Char) : List Chunk :=
  match tokens cs with
  | [] => []
  | first :: rest => (windows cfg (first :: rest)).mapIdx (chunkOf cs)

/-- The words of a chunk. -/
def Chunk.words (chunk : Chunk) : List (List Char) := Text.words chunk.text

end Dossier.Text
