import MailExchange.Text.Basic

/-! Cutting a stream of bytes into lines, which end in LF and take up a limited number of bytes. -/

namespace MailExchange.Wire

open Text (Bytes)

/-- The longest line, its LF included. -/
def maxLine : Nat := 65536

def lineFeed : UInt8 := 10

def carriageReturn : UInt8 := 13

inductive Frame where
  | line (bytes : Bytes)
  | overlong
  deriving DecidableEq, Repr

/-- The first line of a stream and what follows it, unless more bytes are needed to tell. -/
def takeFrame? (input : Bytes) : Option (Frame × Bytes) :=
  let line := input.takeWhile (· != lineFeed)
  if maxLine ≤ line.length then some (.overlong, input.drop maxLine)
  else match input.drop line.length with
    | [] => none
    | _ :: rest => some (.line line, rest)

theorem takeFrame_length {input rest : Bytes} {frame : Frame}
    (h : takeFrame? input = some (frame, rest)) : rest.length < input.length := by
  have hle : (input.takeWhile (· != lineFeed)).length ≤ input.length :=
    (List.takeWhile_prefix _).length_le
  unfold takeFrame? at h
  simp only at h
  split at h
  · rename_i hlong
    simp only [Option.some.injEq, Prod.mk.injEq] at h
    have hpos : 0 < maxLine := by decide
    rw [← h.2, List.length_drop]
    omega
  · split at h
    · simp at h
    · rename_i byte tail hdrop
      simp only [Option.some.injEq, Prod.mk.injEq] at h
      have := congrArg List.length hdrop
      rw [List.length_drop, List.length_cons] at this
      rw [← h.2]
      omega

def withoutCr (bytes : Bytes) : Bytes :=
  if bytes.getLast? = some carriageReturn then bytes.dropLast else bytes

def lineBytes (line : String) : Bytes := Text.utf8 line ++ [lineFeed]

end MailExchange.Wire
