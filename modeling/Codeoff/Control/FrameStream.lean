import Mathlib.Data.List.Basic
import Mathlib.Tactic.Linarith

/-!
# 長さを前に付けた枠の流れ

四バイトの長さに本体が続く枠を、バイトの届いた分だけ読み進める。読みかけの読み取りは、途中で捨てられることがあり、そのとき取
り込んだバイトは失われる。
-/

namespace Codeoff.Control

def be32 (n : Nat) : List UInt8 :=
  [UInt8.ofNat (n / 16777216), UInt8.ofNat (n / 65536), UInt8.ofNat (n / 256), UInt8.ofNat n]

def ofBe32 (bytes : List UInt8) : Nat := bytes.foldl (fun n b => n * 256 + b.toNat) 0

@[simp] theorem length_be32 (n : Nat) : (be32 n).length = 4 := rfl

theorem ofBe32_be32 {n : Nat} (h : n < 4294967296) : ofBe32 (be32 n) = n := by
  simp only [ofBe32, be32, List.foldl_cons, List.foldl_nil, UInt8.toNat_ofNat']
  omega

inductive ReadError where
  | truncated
  | tooLarge
deriving DecidableEq

inductive ReadPoll where
  /-- まだ足りない。`taken` はこの読み取りが取り込んだバイト。 -/
  | pending (taken : List UInt8)
  /-- 枠の始まる前に、流れが終わった。 -/
  | closed
  | failed (error : ReadError)
  /-- 枠の本体と、まだ取り込んでいないバイト。 -/
  | ready (body rest : List UInt8)

/-- `taken` を取り込んだ読み取りを、`arrived` が届いたところまで進める。枠の終わりより後は取り込まない。 -/
def pollFrame (maxBytes : Nat) (taken arrived : List UInt8) (eof : Bool) : ReadPoll :=
  let bytes := taken ++ arrived
  if bytes.length < 4 then
    if !eof then .pending bytes
    else if bytes.isEmpty then .closed
    else .failed .truncated
  else
    let length := ofBe32 (bytes.take 4)
    if length = 0 ∨ maxBytes < length then .failed .tooLarge
    else if bytes.length < 4 + length then
      if !eof then .pending bytes else .failed .truncated
    else .ready ((bytes.drop 4).take length) (bytes.drop (4 + length))

/-- 書かれた枠、読まれた枠、読みかけの読み取りが取り込んだバイト、まだ取り込まれていないバイト。 -/
structure Pipe (F : Type) where
  sent : List F
  delivered : List F
  taken : List UInt8
  unread : List UInt8

inductive PipePoll (F : Type) where
  | pending
  | frame (f : F)
  | ended

namespace Pipe

variable {F : Type} {ε : Type}

def empty : Pipe F := ⟨[], [], [], []⟩

def frameBytes (body : F → List UInt8) (f : F) : List UInt8 := be32 (body f).length ++ body f

def write (body : F → List UInt8) (f : F) (p : Pipe F) : Pipe F :=
  { p with
    sent := p.sent ++ [f]
    unread := p.unread ++ frameBytes body f }

def abandon (p : Pipe F) : Pipe F := { p with taken := [] }

/-- まだ取り込まれていないバイトのうち、先頭の `arrived` バイトが届いている。 -/
def poll (decode : List UInt8 → Except ε F) (maxBytes arrived : Nat) (eof : Bool) (p : Pipe F) :
    Pipe F × PipePoll F :=
  match pollFrame maxBytes p.taken (p.unread.take arrived) eof with
  | .pending taken =>
    ({ p with
      taken
      unread := p.unread.drop arrived }, .pending)
  | .closed => (p.abandon, .ended)
  | .failed _ => (p.abandon, .ended)
  | .ready body rest =>
    match decode body with
    | .ok f =>
      ({ p with
        delivered := p.delivered ++ [f]
        taken := []
        unread := rest ++ p.unread.drop arrived }, .frame f)
    | .error _ => (p.abandon, .ended)

/-- 読まれた枠は書かれた枠の先頭からの並びで、残りの枠のバイトはすべて、取り込まれたか、これから取り込まれる。 -/
def Intact (body : F → List UInt8) (p : Pipe F) : Prop :=
  ∃ rest, p.sent = p.delivered ++ rest ∧ p.taken ++ p.unread = rest.flatMap (frameBytes body)

structure Readable (body : F → List UInt8) (decode : List UInt8 → Except ε F) (maxBytes : Nat) (f : F) : Prop where
  nonempty : 0 < (body f).length
  bounded : (body f).length ≤ maxBytes
  sound : ∀ g, decode (body f) = .ok g → g = f

def next? (decode : List UInt8 → Except ε F) (maxBytes arrived : Nat) (eof : Bool) (p : Pipe F) : Option F :=
  match (p.poll decode maxBytes arrived eof).2 with
  | .frame f => some f
  | _ => none

variable {body : F → List UInt8} {decode : List UInt8 → Except ε F} {maxBytes arrived : Nat} {eof : Bool}
  {p p' : Pipe F} {f : F} {arrived' : List UInt8}

@[simp] theorem sent_write : (p.write body f).sent = p.sent ++ [f] := rfl
@[simp] theorem delivered_write : (p.write body f).delivered = p.delivered := rfl
@[simp] theorem taken_write : (p.write body f).taken = p.taken := rfl
@[simp] theorem sent_abandon : p.abandon.sent = p.sent := rfl
@[simp] theorem delivered_abandon : p.abandon.delivered = p.delivered := rfl
@[simp] theorem taken_abandon : p.abandon.taken = [] := rfl

theorem intact_empty : (empty : Pipe F).Intact body := ⟨[], rfl, rfl⟩

theorem Intact.write (h : p.Intact body) : (p.write body f).Intact body := by
  obtain ⟨rest, hsent, hbytes⟩ := h
  refine ⟨rest ++ [f], by simp [hsent], ?_⟩
  simp only [Pipe.write, List.flatMap_append, ← hbytes]
  simp

theorem Intact.abandon (h : p.Intact body) (htaken : p.taken = []) : p.abandon.Intact body := by
  obtain ⟨rest, hsent, hbytes⟩ := h
  exact ⟨rest, hsent, by simpa [Pipe.abandon, htaken] using hbytes⟩

/-- 枠の途中で読み取りを捨てると、残りの列はもう枠の並びでない。 -/
theorem not_intact_abandon (h : p.Intact body) (htaken : p.taken ≠ []) : ¬p.abandon.Intact body := by
  rintro ⟨rest', hsent', hbytes'⟩
  obtain ⟨rest, hsent, hbytes⟩ := h
  have hrest : rest = rest' := List.append_cancel_left (hsent.symm.trans hsent')
  have hlen := congrArg List.length hbytes
  have hlen' := congrArg List.length hbytes'
  simp only [Pipe.abandon, List.length_append, List.length_nil, hrest] at hlen hlen'
  have : p.taken.length = 0 := by omega
  exact htaken (List.length_eq_zero_iff.mp this)

/-! ### 読み取りの一歩 -/

/-- 大きさの正しい枠は、届き方によらず、ちょうどその枠として読まれる。 -/
theorem pollFrame_frame {taken stream tail : List UInt8} {b : List UInt8} (hmax : maxBytes < 4294967296)
    (hnonempty : 0 < b.length) (hbounded : b.length ≤ maxBytes)
    (hstream : taken ++ arrived' ++ stream = be32 b.length ++ b ++ tail) :
    pollFrame maxBytes taken arrived' eof = .pending (taken ++ arrived') ∨
      pollFrame maxBytes taken arrived' eof = .closed ∨
      (∃ e, pollFrame maxBytes taken arrived' eof = .failed e) ∨
      ∃ rest, pollFrame maxBytes taken arrived' eof = .ready b rest ∧ rest ++ stream = tail := by
  generalize hbytes : taken ++ arrived' = bytes at hstream
  have hlen : ofBe32 (be32 b.length) = b.length := ofBe32_be32 (by omega)
  unfold pollFrame
  simp only [hbytes]
  by_cases hshort : bytes.length < 4
  · rw [if_pos hshort]
    cases eof with
    | false => exact .inl rfl
    | true =>
      cases hempty : bytes.isEmpty with
      | true => exact .inr (.inl rfl)
      | false => exact .inr (.inr (.inl ⟨_, rfl⟩))
  rw [if_neg hshort]
  have hlead : bytes.take 4 = be32 b.length := by
    have h4 : (bytes ++ stream).take 4 = be32 b.length := by
      rw [hstream, List.append_assoc]
      exact List.take_left' rfl
    rwa [List.take_append_of_le_length (by omega)] at h4
  rw [hlead, hlen, if_neg (by omega)]
  by_cases hbody : bytes.length < 4 + b.length
  · rw [if_pos hbody]
    cases eof with
    | false => exact .inl rfl
    | true => exact .inr (.inr (.inl ⟨_, rfl⟩))
  rw [if_neg hbody]
  refine .inr (.inr (.inr ⟨bytes.drop (4 + b.length), ?_, ?_⟩))
  · have hdrop : (bytes ++ stream).drop 4 = b ++ tail := by
      rw [hstream, List.append_assoc]
      exact List.drop_left' rfl
    rw [List.drop_append_of_le_length (by omega)] at hdrop
    have htake : ((bytes.drop 4 ++ stream).take b.length) = b := by rw [hdrop]; exact List.take_left' rfl
    rw [List.take_append_of_le_length (by rw [List.length_drop]; omega)] at htake
    rw [htake]
  · have hdrop : (bytes ++ stream).drop (4 + b.length) = tail := by
      rw [hstream]
      exact List.drop_left' (by simp)
    rwa [List.drop_append_of_le_length (by omega)] at hdrop

theorem pollFrame_whole {b : List UInt8} (hmax : maxBytes < 4294967296) (hnonempty : 0 < b.length)
    (hbounded : b.length ≤ maxBytes) : pollFrame maxBytes [] (be32 b.length ++ b) eof = .ready b [] := by
  have hlen : ofBe32 (be32 b.length) = b.length := ofBe32_be32 (by omega)
  have htake : (be32 b.length ++ b).take 4 = be32 b.length := List.take_left' rfl
  have hdrop : (be32 b.length ++ b).drop 4 = b := List.drop_left' rfl
  have hrest : (be32 b.length ++ b).drop (4 + b.length) = [] := List.drop_of_length_le (by simp)
  unfold pollFrame
  simp only [List.nil_append, htake, hlen, hdrop, hrest, List.take_length]
  rw [if_neg (by simp), if_neg (by omega), if_neg (by simp)]

theorem Intact.pollFrame_cases (arrived : Nat) (eof : Bool) (hmax : maxBytes < 4294967296) (h : p.Intact body)
    (hread : ∀ f ∈ p.sent, Readable body decode maxBytes f) :
    ∃ outcome, pollFrame maxBytes p.taken (p.unread.take arrived) eof = outcome ∧
      (outcome = .pending (p.taken ++ p.unread.take arrived) ∨ outcome = .closed ∨ (∃ e, outcome = .failed e) ∨
        ∃ f fs rest, p.sent = p.delivered ++ f :: fs ∧ outcome = .ready (body f) rest ∧
          rest ++ p.unread.drop arrived = fs.flatMap (frameBytes body)) := by
  refine ⟨_, rfl, ?_⟩
  obtain ⟨frames, hsent, hbytes⟩ := h
  cases frames with
  | nil =>
    obtain ⟨htaken, hunread⟩ : p.taken = [] ∧ p.unread = [] := by simpa using hbytes
    rw [htaken, hunread]
    cases eof with
    | false => exact .inl (by simp [pollFrame])
    | true => exact .inr (.inl (by simp [pollFrame]))
  | cons f fs =>
    obtain ⟨hnonempty, hbounded, _⟩ := hread f (by simp [hsent])
    have hstream : p.taken ++ p.unread.take arrived ++ p.unread.drop arrived =
        be32 (body f).length ++ body f ++ fs.flatMap (frameBytes body) := by
      rw [List.append_assoc, List.take_append_drop, hbytes]
      rfl
    rcases pollFrame_frame hmax hnonempty hbounded hstream with h | h | h | ⟨rest, h, hrest⟩
    · exact .inl h
    · exact .inr (.inl h)
    · exact .inr (.inr (.inl h))
    · exact .inr (.inr (.inr ⟨f, fs, rest, hsent, h, hrest⟩))

/-- 一度の読み取りは、送られた枠を順に一つ渡すか、まだ待つ。 -/
theorem Intact.poll {r : PipePoll F} (hmax : maxBytes < 4294967296) (h : p.Intact body)
    (hread : ∀ f ∈ p.sent, Readable body decode maxBytes f)
    (hpoll : p.poll decode maxBytes arrived eof = (p', r)) :
    p'.sent = p.sent ∧
      ((r = .pending ∧ p'.delivered = p.delivered ∧ p'.Intact body) ∨
        (∃ f, r = .frame f ∧ p'.delivered = p.delivered ++ [f] ∧ p'.taken = [] ∧ p'.Intact body) ∨
        (r = .ended ∧ p'.delivered = p.delivered)) := by
  obtain ⟨outcome, hpollFrame, hframe⟩ := h.pollFrame_cases arrived eof hmax hread
  obtain ⟨frames, hsent, hbytes⟩ := h
  unfold Pipe.poll at hpoll
  rw [hpollFrame] at hpoll
  rcases hframe with rfl | rfl | ⟨e, rfl⟩ | ⟨f, fs, rest, hfs, rfl, hrest⟩
  · cases hpoll
    refine ⟨rfl, .inl ⟨rfl, rfl, frames, hsent, ?_⟩⟩
    rw [List.append_assoc, List.take_append_drop, hbytes]
  · cases hpoll
    exact ⟨rfl, .inr (.inr ⟨rfl, rfl⟩)⟩
  · cases hpoll
    exact ⟨rfl, .inr (.inr ⟨rfl, rfl⟩)⟩
  · cases hdecode : decode (body f) with
    | error e =>
      simp only [hdecode] at hpoll
      cases hpoll
      exact ⟨rfl, .inr (.inr ⟨rfl, rfl⟩)⟩
    | ok g =>
      have hg : g = f := (hread f (by simp [hfs])).sound g hdecode
      subst hg
      simp only [hdecode] at hpoll
      cases hpoll
      exact ⟨rfl, .inr (.inl ⟨g, rfl, rfl, rfl, fs, by simp [hfs], hrest⟩)⟩

end Pipe

end Codeoff.Control
