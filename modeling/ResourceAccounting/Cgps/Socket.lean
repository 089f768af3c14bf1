import Mathlib.Data.List.Basic
import ResourceAccounting.Python.Text
import ResourceAccounting.Streams.Lines

/-!
# Socket — gps_sock_read and its buffer

`gps_sock_read` collects what `recv` delivers in a buffer of fixed size and hands one line at a
time to `gps_unpack`.  The scan for the line end looks at one place more than the buffer holds
(`buffer[waiting]`): a line end left there from earlier is taken for one of the stream, and the
`memmove` that follows gets a negative length.

- `PrivData`, `gpsSockRead` — the buffer and the function;
- `PrivData.Clean` — no line end is left at that place while the buffer holds an incomplete line;
- `gpsSockRead_of_line`, `gpsSockRead_of_recv_line`, `gpsSockRead_of_recv_partial` — what a call
  does, in terms of the pending text.
-/

namespace ResourceAccounting
namespace Cgps

open Python Streams

/-! ## The buffer -/

/-- `sizeof(PRIVATE(gpsdata)->buffer)`, which is `GPS_JSON_RESPONSE_MAX * 2` -/
def bufferSize : Nat := 8192

/-- `struct privdata_t` -/
structure PrivData where
  /-- Only the places below `bufferSize` exist. -/
  buffer : Nat → Char
  waiting : Nat

/-- What `recv` returns when it is called. -/
inductive Recv
  | data (chunk : Text)
  /-- 0: the other side has closed. -/
  | closed
  /-- -1; `again` for EINTR, EAGAIN and EWOULDBLOCK. -/
  | error (again : Bool)
  deriving DecidableEq, Repr

/-- How a call of `gps_sock_read` ends. -/
inductive ReadResult
  /-- An access behind the buffer or a `memmove` of negative length. -/
  | fault
  /-- `recv` waits for data. -/
  | blocked
  /-- -1 -/
  | failed
  /-- 0: no complete line yet. -/
  | incomplete (p : PrivData) (sock : List Recv)
  /-- The line has been handed to `gps_unpack`. -/
  | response (line : Text) (p : PrivData) (sock : List Recv)

namespace PrivData

/-- The text in the buffer. -/
def pending (p : PrivData) : Text :=
  (List.range p.waiting).map p.buffer

/-- The `for` loop over `eol`: the place of the line end it stops at, if any; none if it leaves the
buffer. -/
def scanEol (p : PrivData) : Option (Option Nat) :=
  match (List.range p.waiting).find? (fun i => p.buffer i == '\n') with
  | some i => some (some i)
  | none =>
      if p.waiting = bufferSize then
        -- `buffer[waiting]` lies behind the buffer
        none
      else if p.buffer p.waiting = '\n' then
        some (some p.waiting)
      else
        some none

/-- `*eol = '\0'` and the `memmove` over a line of length `i`. -/
def shift (p : PrivData) (i : Nat) : PrivData where
  buffer := fun j =>
    let terminated := Function.update p.buffer i '\x00'
    if j < p.waiting - (i + 1) then terminated (j + (i + 1)) else terminated j
  waiting := p.waiting - (i + 1)

/-- Hand the line that ends at place `i` over. -/
def respond (p : PrivData) (i : Nat) (sock : List Recv) : ReadResult :=
  if i < p.waiting then
    .response ((List.range i).map p.buffer) (p.shift i) sock
  else
    -- `PRIVATE(gpsdata)->waiting - response_length` is -1
    .fault

/-- Put what has been received behind the pending text. -/
def receive (p : PrivData) (chunk : Text) : PrivData where
  buffer := fun j => if p.waiting ≤ j then chunk.getD (j - p.waiting) (p.buffer j) else p.buffer j
  waiting := p.waiting + chunk.length

/-- The second scan, after `recv`. -/
def rescan (p : PrivData) (sock : List Recv) : ReadResult :=
  match p.scanEol with
  | none => .fault
  | some none => .incomplete p sock
  | some (some i) => p.respond i sock

end PrivData

/-- `gps_sock_read` -/
def gpsSockRead (p : PrivData) (sock : List Recv) : ReadResult :=
  match p.scanEol with
  | none => .fault
  | some (some i) => p.respond i sock
  | some none =>
      match sock with
      | [] => .blocked
      | .data chunk :: rest =>
          -- `recv` gives at most what it is asked for; the rest stays with the socket
          let space := bufferSize - p.waiting
          let rest := if chunk.length ≤ space then rest else .data (chunk.drop space) :: rest
          (p.receive (chunk.take space)).rescan rest
      | .closed :: rest =>
          -- with something in the buffer the status is not looked at
          if p.waiting = 0 then .failed else p.rescan (.closed :: rest)
      | .error again :: rest =>
          if p.waiting = 0 then
            if again then .incomplete p rest else .failed
          else
            p.rescan rest

/-! ## The pending text -/

namespace PrivData

@[simp]
theorem length_pending (p : PrivData) : p.pending.length = p.waiting := by
  simp [pending]

theorem getElem?_pending (p : PrivData) (i : Nat) :
    p.pending[i]? = if i < p.waiting then some (p.buffer i) else none := by
  by_cases hi : i < p.waiting
  · simp [pending, hi]
  · simp [pending, hi]

/-- A buffer is known by its pending text. -/
theorem pending_eq_iff (p : PrivData) (t : Text) :
    p.pending = t ↔ p.waiting = t.length ∧ ∀ i, i < t.length → t[i]? = some (p.buffer i) := by
  constructor
  · rintro rfl
    exact ⟨p.length_pending.symm, fun i hi => by simpa [getElem?_pending] using hi⟩
  · rintro ⟨hlen, hget⟩
    apply List.ext_getElem?
    intro i
    rw [getElem?_pending, hlen]
    by_cases hi : i < t.length
    · rw [if_pos hi, hget i hi]
    · rw [if_neg hi, List.getElem?_eq_none (Nat.le_of_not_lt hi)]

/-- The buffer is not overfull, and behind an incomplete line it holds no line end. -/
structure Clean (p : PrivData) : Prop where
  waiting_le : p.waiting ≤ bufferSize
  no_eol : '\n' ∉ p.pending → p.waiting < bufferSize → p.buffer p.waiting ≠ '\n'

theorem scanEol_of_line {p : PrivData} {l r : Text} (h : p.pending = l ++ '\n' :: r)
    (hl : '\n' ∉ l) : p.scanEol = some (some l.length) := by
  have hget := (p.pending_eq_iff _).1 h
  have hwaiting : p.waiting = l.length + (r.length + 1) := by simpa using hget.1
  have hfind : (List.range p.waiting).find? (fun i => p.buffer i == '\n') = some l.length := by
    refine List.find?_range_eq_some.2 ⟨?_, by simp; omega, fun j hj => ?_⟩
    · have heol := hget.2 l.length (by simp)
      simpa using heol.symm
    · have hchar := hget.2 j (by simp; omega)
      rw [List.getElem?_append_left hj] at hchar
      have hmem : p.buffer j ∈ l := List.mem_of_getElem? hchar
      have hne : p.buffer j ≠ '\n' := fun heq => hl (heq ▸ hmem)
      simpa using hne
  rw [scanEol, hfind]

theorem find?_eq_none_of_not_mem {p : PrivData} (h : '\n' ∉ p.pending) :
    (List.range p.waiting).find? (fun i => p.buffer i == '\n') = none := by
  refine List.find?_eq_none.2 fun i hi => ?_
  have hne : p.buffer i ≠ '\n' := by
    intro heq
    exact h (heq ▸ List.mem_map_of_mem hi)
  simpa using hne

theorem scanEol_of_clean {p : PrivData} (hclean : p.Clean) (h : '\n' ∉ p.pending)
    (hspace : p.waiting < bufferSize) : p.scanEol = some none := by
  have hne := hclean.no_eol h hspace
  rw [scanEol, find?_eq_none_of_not_mem h]
  simp [hspace.ne, hne]

/-- After a line the rest is pending, and the buffer stays clean. -/
theorem shift_of_line {p : PrivData} {l r : Text} (hclean : p.Clean)
    (h : p.pending = l ++ '\n' :: r) (hl : '\n' ∉ l) :
    (p.shift l.length).pending = r ∧ (p.shift l.length).Clean := by
  have hget := (p.pending_eq_iff _).1 h
  have hwaiting : p.waiting = l.length + (r.length + 1) := by simpa using hget.1
  have hlen : (p.shift l.length).waiting = r.length := by
    simp only [shift]
    omega
  have hpending : (p.shift l.length).pending = r := by
    refine (pending_eq_iff _ _).2 ⟨hlen, fun i hi => ?_⟩
    have hi' : i < p.waiting - (l.length + 1) := by omega
    have hchar := hget.2 (i + (l.length + 1)) (by simp; omega)
    have hsplit : (l ++ '\n' :: r)[i + (l.length + 1)]? = r[i]? := by
      rw [List.getElem?_append_right (by omega)]
      have hidx : i + (l.length + 1) - l.length = i + 1 := by omega
      rw [hidx, List.getElem?_cons_succ]
    have hne : i + (l.length + 1) ≠ l.length := by omega
    rw [← hsplit, hchar]
    simp [shift, hi', hne]
  refine ⟨hpending, by have := hclean.waiting_le; omega, fun hr hspace => ?_⟩
  -- the place behind the rest was inside the old text, and its only line end is overwritten
  have hr : '\n' ∉ r := hpending ▸ hr
  have hbuffer : (p.shift l.length).buffer (p.shift l.length).waiting =
      Function.update p.buffer l.length '\x00' r.length := by
    have hnot : ¬ r.length < p.waiting - (l.length + 1) := by omega
    simp only [hlen]
    simp [shift, hnot]
  rw [hbuffer]
  by_cases heq : r.length = l.length
  · rw [heq, Function.update_self]
    decide
  · rw [Function.update_of_ne heq]
    have hchar := hget.2 r.length (by simp; omega)
    intro heol
    rw [heol] at hchar
    -- a line end there would lie in `l` or in `r`
    rcases Nat.lt_or_ge r.length l.length with hlt | hge
    · rw [List.getElem?_append_left hlt] at hchar
      exact hl (List.mem_of_getElem? hchar)
    · have hidx : r.length - l.length = (r.length - l.length - 1) + 1 := by omega
      rw [List.getElem?_append_right hge, hidx, List.getElem?_cons_succ] at hchar
      exact hr (List.mem_of_getElem? hchar)

theorem pending_receive (p : PrivData) (chunk : Text) :
    (p.receive chunk).pending = p.pending ++ chunk := by
  refine (pending_eq_iff _ _).2 ⟨by simp [receive], fun i hi => ?_⟩
  rcases Nat.lt_or_ge i p.waiting with hlt | hge
  · rw [List.getElem?_append_left (by simpa using hlt), getElem?_pending, if_pos hlt]
    simp [receive, Nat.not_le.2 hlt]
  · have hlen : i - p.waiting < chunk.length := by
      simp at hi
      omega
    rw [List.getElem?_append_right (by simpa using hge), length_pending]
    simp [receive, hge, hlen]

end PrivData

/-! ## What a call does -/

/-- The line that a buffer with a complete line gives. -/
theorem respond_of_line {p : PrivData} {l r : Text} (hclean : p.Clean)
    (h : p.pending = l ++ '\n' :: r) (hl : '\n' ∉ l) (sock : List Recv) :
    ∃ p', p.respond l.length sock = .response l p' sock ∧ p'.pending = r ∧ p'.Clean := by
  have hget := (p.pending_eq_iff _).1 h
  have hwaiting : p.waiting = l.length + (r.length + 1) := by simpa using hget.1
  have hline : (List.range l.length).map p.buffer = l := by
    apply List.ext_getElem?
    intro i
    by_cases hi : i < l.length
    · have hchar := hget.2 i (by simp; omega)
      rw [List.getElem?_append_left hi] at hchar
      simp [hi] at hchar ⊢
      exact hchar.symm
    · simp [hi]
  have hshift := PrivData.shift_of_line hclean h hl
  refine ⟨p.shift l.length, ?_, hshift⟩
  rw [PrivData.respond, if_pos (by omega), hline]

theorem gpsSockRead_of_line {p : PrivData} {l r : Text} (hclean : p.Clean)
    (h : p.pending = l ++ '\n' :: r) (hl : '\n' ∉ l) (sock : List Recv) :
    ∃ p', gpsSockRead p sock = .response l p' sock ∧ p'.pending = r ∧ p'.Clean := by
  simpa only [gpsSockRead, PrivData.scanEol_of_line h hl] using respond_of_line hclean h hl sock

theorem gpsSockRead_of_recv {p : PrivData} {chunk : Text} (hclean : p.Clean)
    (h : '\n' ∉ p.pending) (hne : chunk ≠ []) (hfits : p.waiting + chunk.length ≤ bufferSize)
    (sock : List Recv) :
    gpsSockRead p (.data chunk :: sock) = (p.receive chunk).rescan sock := by
  have hlen : 0 < chunk.length := List.length_pos_iff.2 hne
  have hspace : chunk.length ≤ bufferSize - p.waiting := by omega
  rw [gpsSockRead, PrivData.scanEol_of_clean hclean h (by omega)]
  simp [hspace, List.take_of_length_le hspace]

/-- The chunk completes a line. -/
theorem gpsSockRead_of_recv_line {p : PrivData} {chunk l r : Text} (hclean : p.Clean)
    (h : '\n' ∉ p.pending) (hne : chunk ≠ []) (hfits : p.waiting + chunk.length ≤ bufferSize)
    (hsplit : p.pending ++ chunk = l ++ '\n' :: r) (hl : '\n' ∉ l) (sock : List Recv) :
    ∃ p', gpsSockRead p (.data chunk :: sock) = .response l p' sock ∧ p'.pending = r ∧
      p'.Clean := by
  have hpending : (p.receive chunk).pending = l ++ '\n' :: r := by
    rw [PrivData.pending_receive, hsplit]
  have hclean' : (p.receive chunk).Clean :=
    ⟨hfits, fun hnot => absurd (by simp [hpending]) hnot⟩
  rw [gpsSockRead_of_recv hclean h hne hfits, PrivData.rescan,
    PrivData.scanEol_of_line hpending hl]
  exact respond_of_line hclean' hpending hl sock

/-- The chunk completes no line: if the call does not fault it returns 0. -/
theorem gpsSockRead_of_recv_partial {p : PrivData} {chunk : Text} (hclean : p.Clean)
    (h : '\n' ∉ p.pending) (hchunk : '\n' ∉ chunk) (hne : chunk ≠ [])
    (hfits : p.waiting + chunk.length ≤ bufferSize) (sock : List Recv) :
    gpsSockRead p (.data chunk :: sock) = .fault ∨
      ∃ p', gpsSockRead p (.data chunk :: sock) = .incomplete p' sock ∧
        p'.pending = p.pending ++ chunk ∧ p'.Clean := by
  have hpending := PrivData.pending_receive p chunk
  have hnot : '\n' ∉ (p.receive chunk).pending := by
    rw [hpending, List.mem_append, not_or]
    exact ⟨h, hchunk⟩
  have hfind := PrivData.find?_eq_none_of_not_mem hnot
  rw [gpsSockRead_of_recv hclean h hne hfits]
  by_cases hfull : (p.receive chunk).waiting = bufferSize
  · -- the second scan runs off the full buffer
    have hscan : (p.receive chunk).scanEol = none := by
      rw [PrivData.scanEol, hfind]
      exact if_pos hfull
    exact Or.inl (by rw [PrivData.rescan, hscan])
  · by_cases hstale : (p.receive chunk).buffer (p.receive chunk).waiting = '\n'
    · -- a line end left from an earlier line
      have hscan : (p.receive chunk).scanEol = some (some (p.receive chunk).waiting) := by
        rw [PrivData.scanEol, hfind]
        simp [hfull, hstale]
      refine Or.inl ?_
      rw [PrivData.rescan, hscan]
      exact if_neg (lt_irrefl _)
    · have hscan : (p.receive chunk).scanEol = some none := by
        rw [PrivData.scanEol, hfind]
        simp [hfull, hstale]
      refine Or.inr ⟨p.receive chunk, ?_, hpending, hfits, fun _ _ => hstale⟩
      rw [PrivData.rescan, hscan]

/-- Nothing comes in while the buffer holds no complete line. -/
theorem gpsSockRead_nil {p : PrivData} (hclean : p.Clean) (h : '\n' ∉ p.pending)
    (hspace : p.waiting < bufferSize) : gpsSockRead p [] = .blocked := by
  rw [gpsSockRead, PrivData.scanEol_of_clean hclean h hspace]

end Cgps
end ResourceAccounting
