import MailExchange.Access.Command
import MailExchange.Proofs.Text.Decimal
import MailExchange.Proofs.Text.Split
import Mathlib.Algebra.Group.Nat.Defs

namespace MailExchange.Access.Command

/-- A command that its line stands for. -/
def WellFormed : Command → Prop
  | login user password =>
    (user ≠ "" ∧ ' ' ∉ user.toList) ∧ password ≠ "" ∧ ' ' ∉ password.toList
  | view id => id.toNat < 10 ^ 19
  | delete id => id.toNat < 10 ^ 19
  | startSecure => True
  | list => True
  | logout => True
  | quit => True

def number? : Command → Option MessageId
  | view id => some id
  | delete id => some id
  | _ => none

theorem login_words {user password : String} (formed : (login user password).WellFormed) :
    login? (user ++ " " ++ password) = some (login user password) := by
  obtain ⟨⟨some_user, user_free⟩, some_password, password_free⟩ := formed
  have glued : user ++ " " ++ password = Text.join " " [user, password] := by
    simp only [Text.join, String.intercalate_cons_cons, String.intercalate_singleton,
      String.append_assoc]
  have pieces : Text.splitAtEach ' ' (user ++ " " ++ password) = [user, password] := by
    rw [glued]
    apply Text.splitAtEach_join rfl (List.cons_ne_nil _ _)
    intro word member
    simp only [List.mem_cons, List.not_mem_nil, or_false] at member
    rcases member with rfl | rfl
    · exact user_free
    · exact password_free
  simp only [login?, pieces, some_user, some_password, or_self, if_false]

theorem id_decimal {id : MessageId} (short : id.toNat < 10 ^ 19) :
    id? (Text.decimal id.toNat) = some id := by
  have digits : (Text.decimal id.toNat).length ≤ 19 :=
    (Nat.length_repr_le_iff (by decide)).mpr short
  rw [id?, if_pos digits, Text.decimal, String.toList_ofList, Text.decimal_toDigits, Option.map_some,
    UInt64.ofNat_toNat]

theorem parse_login (text : String) : parse? ("login " ++ text) = login? text := by
  rw [parse?, show "login " = "login" ++ " " from rfl, Text.cut_word (by decide)]
  rfl

theorem parse_view (text : String) : parse? ("show " ++ text) = (id? text).map view := by
  rw [parse?, show "show " = "show" ++ " " from rfl, Text.cut_word (by decide)]
  rfl

theorem parse_delete (text : String) : parse? ("delete " ++ text) = (id? text).map delete := by
  rw [parse?, show "delete " = "delete" ++ " " from rfl, Text.cut_word (by decide)]
  rfl

theorem parse_line {command : Command} (formed : command.WellFormed) :
    parse? command.line = some command := by
  cases command with
  | login user password =>
      have words : (login user password).line = "login " ++ (user ++ " " ++ password) := by
        simp only [line, String.append_assoc]
      rw [words, parse_login, login_words formed]
  | view id => rw [line, parse_view, id_decimal formed, Option.map_some]
  | delete id => rw [line, parse_delete, id_decimal formed, Option.map_some]
  | startSecure => decide
  | list => decide
  | logout => decide
  | quit => decide

theorem wellFormed_numbered {command : Command} {id : MessageId}
    (numbered : command.number? = some id) : command.WellFormed ↔ id.toNat < 10 ^ 19 := by
  cases command with
  | view other =>
      cases numbered
      exact Iff.rfl
  | delete other =>
      cases numbered
      exact Iff.rfl
  | _ => cases numbered

theorem parse_numbered {command : Command} {id : MessageId} (numbered : command.number? = some id)
    (long : 10 ^ 19 ≤ id.toNat) : parse? command.line = none := by
  have unread : id? (Text.decimal id.toNat) = none := by
    rw [id?, if_neg]
    intro short
    exact absurd ((Nat.length_repr_le_iff (by decide)).mp short) (Nat.not_lt.mpr long)
  cases command with
  | view other =>
      cases numbered
      rw [line, parse_view, unread, Option.map_none]
  | delete other =>
      cases numbered
      rw [line, parse_delete, unread, Option.map_none]
  | _ => cases numbered

end MailExchange.Access.Command
