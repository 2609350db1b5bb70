import MailExchange.Proofs.Transfer.Observed
import MailExchange.Proofs.Wire.Deciphering

/-!
A session answers in lock step: one line for each line that it reads. It reads up to `quit`, up to a
line that breaks the protocol, or as far as there are lines, and its result tells which.
-/

namespace MailExchange.Transfer

open Text (Bytes)
open Wire (Frame Lines NextLine Unreadable)

namespace Command

variable {line : String}

theorem parse_begin : parse? line = some .begin ↔ line = "begin" := by
  constructor
  · intro found
    obtain ⟨_, same | ⟨_, other⟩ | ⟨_, other⟩⟩ := line_parse found
    · exact same.symm
    · cases other
    · cases other
  · rintro rfl
    rfl

theorem parse_quit : parse? line = some .quit ↔ line = "quit" := by
  constructor
  · intro found
    obtain ⟨_, same | ⟨_, other⟩ | ⟨_, other⟩⟩ := line_parse found
    · exact same.symm
    · cases other
    · cases other
  · rintro rfl
    rfl

end Command

/-- A line that breaks the protocol after some lines that did not, and the error that it is. -/
inductive Violation (earlier : List String) (line : String) : Error → Prop
  | unknown (found : Command.parse? line = none) :
      Violation earlier line (.protocol ("bad command " ++ Text.quoted (Session.shown line)))
  | early {command : Command} (first : earlier = []) (found : Command.parse? line = some command)
      (no_begin : command ≠ .begin) (no_quit : command ≠ .quit) :
      Violation earlier line (.protocol ("expected begin, got " ++ command.describe))
  | repeated (later : earlier ≠ []) (found : Command.parse? line = some .begin) :
      Violation earlier line (.protocol "repeated begin")

/-- A line after which a session goes on: `begin` at first, and then anything but `begin` and `quit`. -/
def Ordinary (earlier : List String) (line : String) : Prop :=
  ∃ command, Command.parse? line = some command ∧ command ≠ .quit ∧
    (earlier = [] ↔ command = .begin)

section Kinds

variable {earlier : List String} {line : String} {error other : Error}

theorem Violation.no_quit (violation : Violation earlier line error) : line ≠ "quit" := by
  rintro rfl
  cases violation with
  | unknown found => cases found
  | early _ found _ no_quit =>
      cases found
      exact no_quit rfl
  | repeated _ found => cases found

theorem Ordinary.no_quit (ordinary : Ordinary earlier line) : line ≠ "quit" := by
  rintro rfl
  obtain ⟨command, found, no_quit, _⟩ := ordinary
  cases found
  exact no_quit rfl

theorem Ordinary.no_violation (ordinary : Ordinary earlier line) : ¬Violation earlier line error := by
  obtain ⟨command, found, no_quit, begins⟩ := ordinary
  intro violation
  cases violation with
  | unknown unknown =>
      rw [found] at unknown
      cases unknown
  | early first again no_begin =>
      rw [found] at again
      cases again
      exact no_begin (begins.mp first)
  | repeated later again =>
      rw [found] at again
      cases again
      exact later (begins.mpr rfl)

theorem Violation.unique (violation : Violation earlier line error)
    (again : Violation earlier line other) : error = other := by
  cases violation with
  | unknown found =>
      cases again with
      | unknown => rfl
      | early _ known => rw [found] at known; cases known
      | repeated _ known => rw [found] at known; cases known
  | early first found no_begin =>
      cases again with
      | unknown unknown => rw [found] at unknown; cases unknown
      | early _ same => rw [found] at same; cases same; rfl
      | repeated later => exact absurd first later
  | repeated later found =>
      cases again with
      | unknown unknown => rw [found] at unknown; cases unknown
      | early first => exact absurd first later
      | repeated => rfl

end Kinds

def AllOrdinary (earlier lines : List String) : Prop :=
  ∀ before line after, lines = before ++ line :: after → Ordinary (earlier ++ before) line

namespace AllOrdinary

variable {earlier lines : List String} {line : String}

theorem nil : AllOrdinary earlier [] := fun _ _ _ cut =>
  absurd cut.symm (List.append_ne_nil_of_right_ne_nil _ (List.cons_ne_nil _ _))

theorem cons (ordinary : Ordinary earlier line) (later : AllOrdinary (earlier ++ [line]) lines) :
    AllOrdinary earlier (line :: lines) := by
  intro before other after cut
  cases before with
  | nil =>
      obtain ⟨rfl, _⟩ := List.cons.inj cut
      rw [List.append_nil]
      exact ordinary
  | cons _ before =>
      obtain ⟨rfl, later_cut⟩ := List.cons.inj cut
      rw [List.append_cons]
      exact later before other after later_cut

theorem head (all : AllOrdinary earlier (line :: lines)) : Ordinary earlier line := by
  have here := all [] line lines rfl
  rwa [List.append_nil] at here

theorem tail (all : AllOrdinary earlier (line :: lines)) :
    AllOrdinary (earlier ++ [line]) lines := by
  intro before other after cut
  rw [← List.append_cons]
  exact all (line :: before) other after (congrArg _ cut)

end AllOrdinary

/-- How a session can go on after some lines: what it reads of a stream, what it replies, what it
leaves unread, and what comes of it. -/
inductive Dialogue :
    List String → Bytes → List String → List String → Bytes → Except Error Unit → Prop
  | unread {earlier : List String} {input : Bytes} {error : Error}
      (unreadable : Unreadable input error) : Dialogue earlier input [] [] input (.error error)
  | violation {earlier : List String} {input rest : Bytes} {line : String} {error : Error}
      (next : NextLine input line rest) (violation : Violation earlier line error) :
      Dialogue earlier input [line] [Session.refusal] rest (.error error)
  | quit {earlier : List String} {input rest : Bytes} (next : NextLine input "quit" rest) :
      Dialogue earlier input ["quit"] ["ok bye"] rest (.ok ())
  | answered {earlier lines replies : List String} {input middle rest : Bytes} {line reply : String}
      {result : Except Error Unit} (next : NextLine input line middle)
      (ordinary : Ordinary earlier line) (accepted : earlier = [] → reply = "ok")
      (one_line : '\n' ∉ reply.toList)
      (later : Dialogue (earlier ++ [line]) middle lines replies rest result) :
      Dialogue earlier input (line :: lines) (reply :: replies) rest result

namespace Dialogue

variable {earlier lines replies : List String} {input rest : Bytes} {result : Except Error Unit}

theorem read (dialogue : Dialogue earlier input lines replies rest result) :
    Lines input lines rest := by
  induction dialogue with
  | unread => exact .none _
  | violation next => exact .more next (.none _)
  | quit next => exact .more next (.none _)
  | answered next _ _ _ _ ih => exact .more next ih

theorem one_reply_each (dialogue : Dialogue earlier input lines replies rest result) :
    replies.length = lines.length := by
  induction dialogue with
  | answered _ _ _ _ _ ih => exact congrArg Nat.succ ih
  | _ => rfl

theorem one_line (dialogue : Dialogue earlier input lines replies rest result) :
    ∀ reply ∈ replies, '\n' ∉ reply.toList := by
  induction dialogue with
  | answered _ _ _ one_line _ ih => exact List.forall_mem_cons.mpr ⟨one_line, ih⟩
  | _ => decide

theorem success (dialogue : Dialogue earlier input lines replies rest result) :
    result = .ok () ↔ "quit" ∈ lines := by
  induction dialogue with
  | unread => exact iff_of_false nofun List.not_mem_nil
  | violation _ violation =>
      refine iff_of_false nofun fun member => ?_
      exact violation.no_quit (List.mem_singleton.mp member).symm
  | quit => exact iff_of_true rfl List.mem_cons_self
  | answered _ ordinary _ _ _ ih => rw [ih, List.mem_cons, or_iff_right ordinary.no_quit.symm]

theorem closing (dialogue : Dialogue earlier input lines replies rest result)
    {before after : List String} {line : String} (cut : lines = before ++ line :: after)
    (closes : ¬Ordinary (earlier ++ before) line) :
    after = [] ∧ ((line = "quit" ∧ replies.getLast? = some "ok bye") ∨
      ∃ error, Violation (earlier ++ before) line error ∧
        replies.getLast? = some Session.refusal ∧ result = .error error) := by
  induction dialogue generalizing before with
  | unread => exact absurd cut.symm (List.append_ne_nil_of_right_ne_nil _ (List.cons_ne_nil _ _))
  | violation _ violation =>
      obtain ⟨rfl, same⟩ | ⟨_, empty⟩ := List.append_eq_singleton_iff.mp cut.symm
      · cases same
        rw [List.append_nil]
        exact ⟨rfl, Or.inr ⟨_, violation, rfl, rfl⟩⟩
      · cases empty
  | quit =>
      obtain ⟨rfl, same⟩ | ⟨_, empty⟩ := List.append_eq_singleton_iff.mp cut.symm
      · cases same
        exact ⟨rfl, Or.inl ⟨rfl, rfl⟩⟩
      · cases empty
  | @answered earlier lines replies input middle rest first reply result _ ordinary _ _ later ih =>
      cases before with
      | nil =>
          obtain ⟨rfl, _⟩ := List.cons.inj cut
          rw [List.append_nil] at closes
          exact absurd ordinary closes
      | cons _ before =>
          obtain ⟨rfl, later_cut⟩ := List.cons.inj cut
          rw [List.append_cons] at closes ⊢
          have some_reply : replies ≠ [] := by
            rintro rfl
            have none_read := later.one_reply_each
            rw [later_cut] at none_read
            simp at none_read
          rw [List.getLast?_cons_of_ne_nil some_reply]
          exact ih later_cut closes

theorem unread_rest (dialogue : Dialogue earlier input lines replies rest result)
    (ordinary : AllOrdinary earlier lines) :
    ∃ error, Unreadable rest error ∧ result = .error error := by
  induction dialogue with
  | unread unreadable => exact ⟨_, unreadable, rfl⟩
  | violation _ violation => exact absurd violation ordinary.head.no_violation
  | quit => exact absurd rfl ordinary.head.no_quit
  | answered _ _ _ _ _ ih => exact ih ordinary.tail

end Dialogue

namespace Session

variable {κ : Type} [Consumer κ] {session : Session κ}

/-- A session in clear that waits for a line. It has begun exactly if it has read any. -/
structure Attentive (session : Session κ) : Prop where
  clear : session.endpoint.cipher = none
  running : session.result? = none
  begun : session.begun = true ↔ session.endpoint.heard ≠ []

/-- What a session can make of a line. -/
inductive Reaction (session : Session κ) (line : String) : Session κ → Prop
  | violation {error : Error} (violation : Violation session.endpoint.heard line error) :
      Reaction session line { session.exchange line refusal with result? := some (.error error) }
  | quit (asked : line = "quit") :
      Reaction session line
        { session.exchange line "ok bye" with
          desk := { session.desk with draft := {} }, result? := some (.ok ()) }
  | answered {next : Session κ} {reply : String} (ordinary : Ordinary session.endpoint.heard line)
      (accepted : session.endpoint.heard = [] → reply = "ok" ∧ next.desk = session.desk)
      (one_line : '\n' ∉ reply.toList)
      (exchanged : next.endpoint = (session.endpoint.hear line).say reply)
      (begun : next.begun = true) (running : next.result? = none) : Reaction session line next

omit [Consumer κ] in
theorem start_reaction (attentive : Attentive session) (first : session.endpoint.heard = [])
    {line : String} {command : Command} (found : Command.parse? line = some command) :
    Reaction session line ((session.hearing line).start command) := by
  by_cases begins : command = .begin
  · subst begins
    have said := say_clear { session.hearing line with begun := true } "ok" attentive.clear
      (by decide)
    rw [start, said]
    exact .answered ⟨.begin, found, by decide, iff_of_true first rfl⟩ (fun _ => ⟨rfl, rfl⟩)
      (by decide) rfl rfl attentive.running
  · by_cases quits : command = .quit
    · subst quits
      rw [start, quit_clear attentive.clear attentive.running]
      exact .quit (Command.parse_quit.mp found)
    · rw [start_other _ begins quits, violation_clear attentive.clear attentive.running]
      exact .violation (.early first found begins quits)

theorem execute_reaction (attentive : Attentive session) (later : session.endpoint.heard ≠ [])
    {line : String} {command : Command} (found : Command.parse? line = some command)
    (carried : command.Carried) :
    Reaction session line ((session.hearing line).interpret line) := by
  have begun := attentive.begun.mpr later
  have asked : (session.hearing line).begun = true := begun
  by_cases begins : command = .begin
  · subst begins
    simp only [interpret, found, asked, if_true, execute]
    rw [violation_clear attentive.clear attentive.running]
    exact .violation (.repeated later found)
  · by_cases quits : command = .quit
    · subst quits
      simp only [interpret, found, asked, if_true, execute]
      rw [quit_clear attentive.clear attentive.running]
      exact .quit (Command.parse_quit.mp found)
    · obtain ⟨reply, desk, response⟩ := Desk.respond_ordinary session.desk begins quits
      have one_line := (Desk.respond_response response).one_line carried.fits.one_line
      rw [interpret_answered attentive.clear begun found response one_line]
      exact .answered ⟨command, found, quits, iff_of_false later begins⟩
        (fun first => absurd first later) one_line rfl begun attentive.running

theorem interpret_reaction (attentive : Attentive session) {line : String}
    (carried : ∀ command, Command.parse? line = some command → command.Carried) :
    Reaction session line ((session.hearing line).interpret line) := by
  cases found : Command.parse? line with
  | none =>
      simp only [interpret, found]
      rw [violation_clear attentive.clear attentive.running]
      exact .violation (.unknown found)
  | some command =>
      by_cases first : session.endpoint.heard = []
      · have waiting : (session.hearing line).begun = false :=
          eq_false_of_ne_true fun begun => attentive.begun.mp begun first
        simp only [interpret, found, waiting, Bool.false_eq_true, if_false]
        exact start_reaction attentive first found
      · exact execute_reaction attentive first found (carried command found)

structure Continues (session final : Session κ) (input : Bytes) (lines replies : List String)
    (rest : Bytes) (result : Except Error Unit) : Prop where
  dialogue : Dialogue session.endpoint.heard input lines replies rest result
  heard : final.endpoint.heard = session.endpoint.heard ++ lines
  sent : final.endpoint.sent = session.endpoint.sent ++ replies
  ended : final.result? = some result
  idle : session.endpoint.heard = [] → final.desk.consumer = session.desk.consumer ∨
    lines.head? = some "begin" ∧ replies.head? = some "ok"
  left : Wire.Session.feed session input = (final, rest) ∨ AllOrdinary session.endpoint.heard lines

section Continuing

variable {input rest : Bytes} {line : String} {error : Error}

theorem Continues.unread (unreadable : Unreadable input error) :
    Continues session { session with result? := some (.error error) } input [] [] input
      (.error error) where
  dialogue := .unread unreadable
  heard := (List.append_nil _).symm
  sent := (List.append_nil _).symm
  ended := rfl
  idle _ := Or.inl rfl
  left := Or.inr .nil

theorem take_unread (running : session.result? = none) {frame : Frame}
    (failed : session.endpoint.decode (some frame) = (.error error, session.endpoint)) :
    session.take (some frame) = { session with result? := some (.error error) } := by
  rw [take, failed]
  exact finish_running session running (.error error)

theorem Reaction.continues {next : Session κ} (attentive : Attentive session)
    (read : NextLine input line rest) (reaction : Reaction session line next)
    (fed : Wire.Session.feed session input = Wire.Session.feed next rest)
    (later : Attentive next → ∃ lines replies left result,
      Continues next (Wire.Session.run next rest) rest lines replies left result) :
    ∃ lines replies left result,
      Continues session (Wire.Session.run next rest) input lines replies left result := by
  cases reaction with
  | violation violation =>
      rw [Wire.Session.run_over rfl]
      exact ⟨_, _, _, _, .violation read violation, rfl, rfl, rfl, fun _ => Or.inl rfl,
        Or.inl (fed.trans (Wire.Session.feed_over rfl rest))⟩
  | quit asked =>
      subst asked
      rw [Wire.Session.run_over rfl]
      exact ⟨_, _, _, _, .quit read, rfl, rfl, rfl, fun _ => Or.inl rfl,
        Or.inl (fed.trans (Wire.Session.feed_over rfl rest))⟩
  | @answered _ reply ordinary accepted one_line exchanged begun running =>
      have heard : next.endpoint.heard = session.endpoint.heard ++ [line] := by
        rw [exchanged]
        rfl
      have sent : next.endpoint.sent = session.endpoint.sent ++ [reply] := by
        rw [exchanged]
        rfl
      have still : Attentive next := by
        refine ⟨by rw [exchanged]; exact attentive.clear, running, iff_of_true begun ?_⟩
        rw [heard]
        exact List.append_ne_nil_of_right_ne_nil _ (List.cons_ne_nil _ _)
      obtain ⟨lines, replies, left, result, continues⟩ := later still
      have dialogue := continues.dialogue
      have unread := continues.left
      rw [heard] at dialogue unread
      refine ⟨line :: lines, reply :: replies, left, result,
        .answered read ordinary (fun first => (accepted first).1) one_line dialogue, ?_, ?_,
        continues.ended, ?_, ?_⟩
      · rw [continues.heard, heard, List.append_assoc, List.singleton_append]
      · rw [continues.sent, sent, List.append_assoc, List.singleton_append]
      · intro first
        obtain ⟨command, found, _, begins⟩ := ordinary
        rw [begins.mp first, Command.parse_begin] at found
        rw [found, (accepted first).1]
        exact Or.inr ⟨rfl, rfl⟩
      · rw [fed]
        exact unread.imp_right (.cons ordinary)

theorem run_continues (attentive : Attentive session) (input : Bytes) :
    ∃ lines replies rest result,
      Continues session (Wire.Session.run session input) input lines replies rest result := by
  fun_induction Wire.Session.feed session input with
  | case1 session input finished =>
      have running : Wire.Session.isOver session = false :=
        Wire.Session.isOver_iff.mpr attentive.running
      rw [finished] at running
      cases running
  | case2 session input running pending =>
      have ended : Wire.Session.take session none = _ := take_none attentive.running
      rw [Wire.Session.run_pending (eq_false_of_ne_true running) pending, ended]
      exact ⟨_, _, _, _, .unread (Wire.unreadable_pending pending)⟩
  | case3 session input running frame rest found shorter ih =>
      have running := eq_false_of_ne_true running
      have fed := Wire.Session.feed_frame running found
      rw [Wire.Session.run_frame running found]
      cases frame with
      | overlong =>
          have taken : Wire.Session.take session (some .overlong) = _ :=
            take_unread attentive.running rfl
          rw [taken, Wire.Session.run_over rfl]
          exact ⟨_, _, _, _, .unread (Wire.unreadable_overlong found)⟩
      | line bytes =>
          cases text : Text.ofUtf8? (Wire.withoutCr bytes) with
          | none =>
              have failed : session.endpoint.decode (some (.line bytes)) =
                  (.error .framing, session.endpoint) := by
                simp only [Wire.Endpoint.decode, text]
              have taken : Wire.Session.take session (some (.line bytes)) = _ :=
                take_unread attentive.running failed
              rw [taken, Wire.Session.run_over rfl]
              exact ⟨_, _, _, _, .unread (Wire.unreadable_garbled found text)⟩
          | some line =>
              have read := Wire.nextLine_frame.mpr ⟨bytes, found, text⟩
              have reaction := interpret_reaction attentive fun command parsed =>
                Command.carried_parse (Wire.takeFrame_cut found) (Text.utf8_ofUtf8 text) parsed
              have taken : Wire.Session.take session (some (.line bytes)) = _ :=
                take_text attentive.clear text
              rw [taken] at fed ih ⊢
              exact reaction.continues attentive read fed ih

end Continuing

omit [Consumer κ] in
theorem attentive_greet (label : LogPrefix) (consumer : κ) : Attentive (greet label consumer) := by
  rw [greet_clear]
  exact ⟨rfl, rfl, iff_of_false nofun fun some_line => some_line rfl⟩

end Session

/-- A session that has read these lines, given these replies and ended with this result, where this was
left of the stream. -/
structure LockStep (lines replies : List String) (rest : Bytes) (result : Except Error Unit) :
    Prop where
  one_reply_each : replies.length = lines.length
  one_line : ∀ reply ∈ replies, '\n' ∉ reply.toList
  /-- A session succeeds exactly if it comes to `quit`. -/
  success : result = .ok () ↔ "quit" ∈ lines
  /-- It reads nothing after `quit`. -/
  quit : ∀ before after, lines = before ++ "quit" :: after →
    after = [] ∧ replies.getLast? = some "ok bye"
  /-- Nor does it after a line that breaks the protocol. -/
  violation : ∀ before line after error, lines = before ++ line :: after →
    Violation before line error →
    after = [] ∧ replies.getLast? = some "error protocol error" ∧ result = .error error
  /-- Else it reads on until it fails to read, to which it replies nothing. -/
  unread : "quit" ∉ lines →
    (∀ before line error, lines = before ++ [line] → ¬Violation before line error) →
    ∃ error, Unreadable rest error ∧ result = .error error

section Concluding

variable {lines replies : List String} {input rest : Bytes} {result : Except Error Unit}

theorem Dialogue.lockStep (dialogue : Dialogue [] input lines replies rest result) :
    LockStep lines replies rest result where
  one_reply_each := dialogue.one_reply_each
  one_line := dialogue.one_line
  success := dialogue.success
  quit before after cut := by
    obtain ⟨last, ⟨_, told⟩ | ⟨error, violation, _⟩⟩ :=
      dialogue.closing cut fun ordinary => ordinary.no_quit rfl
    · exact ⟨last, told⟩
    · exact absurd rfl violation.no_quit
  violation before line after error cut violation := by
    obtain ⟨last, ⟨quits, _⟩ | ⟨other, again, told, failed⟩⟩ :=
      dialogue.closing cut fun ordinary => ordinary.no_violation violation
    · exact absurd quits violation.no_quit
    · rw [again.unique violation] at failed
      exact ⟨last, told, failed⟩
  unread no_quit no_violation := by
    apply dialogue.unread_rest
    intro before line after cut
    by_contra closes
    obtain ⟨rfl, ⟨rfl, _⟩ | ⟨error, violation, _⟩⟩ := dialogue.closing cut closes
    · rw [cut] at no_quit
      exact no_quit (List.mem_append_right _ List.mem_cons_self)
    · exact no_violation before line error cut violation

theorem Session.Continues.fed {κ : Type} [Consumer κ] {session final : Session κ}
    (fresh : session.endpoint.heard = [])
    (continues : Continues session final input lines replies rest result)
    {before : List String} {line : String} (cut : lines = before ++ [line])
    (closes : line = "quit" ∨ ∃ error, Violation before line error) :
    Wire.Session.feed session input = (final, rest) := by
  refine continues.left.resolve_right fun all => ?_
  have ordinary := all before line [] cut
  rw [fresh, List.nil_append] at ordinary
  rcases closes with quits | ⟨error, violation⟩
  · exact ordinary.no_quit quits
  · exact ordinary.no_violation violation

end Concluding

/-- A server greets its client and answers each line of text that it reads with one line, whatever the
bytes of the client and the consumer are. What follows a line that ends the session makes no difference,
and nothing is consumed before `begin` was accepted. To note down what is consumed makes no difference
either. -/
theorem answers_in_lock_step {κ : Type} [Consumer κ] (label : LogPrefix) (consumer : κ)
    (input : Bytes) :
    let session := Wire.Session.run (Session.greet label consumer) input
    let watched := Wire.Session.run (Session.observed label consumer) input
    ∃ lines replies rest result,
      session.endpoint.heard = lines ∧ session.endpoint.sent = greeting :: replies ∧
      session.result? = some result ∧ Lines input lines rest ∧
      LockStep lines replies rest result ∧
      (∀ before line, lines = before ++ [line] →
        (line = "quit" ∨ ∃ error, Violation before line error) →
        ∀ consumed more, input = consumed ++ rest →
          Wire.Session.run (Session.greet label consumer) (consumed ++ more) = session) ∧
      watched.unobserved = session ∧
      (watched.desk.consumer.calls ≠ [] →
        lines.head? = some "begin" ∧ replies.head? = some "ok") := by
  intro session watched
  let start : Session (Journal κ) := Session.observed label consumer
  have attentive : start.Attentive := Session.attentive_greet label _
  have greeted : start.endpoint.heard = [] ∧ start.endpoint.sent = [greeting] ∧
      start.desk.consumer.calls = [] := by
    simp only [start, Session.observed, Session.greet_clear, and_self]
  obtain ⟨fresh, sent, uncalled⟩ := greeted
  have unobserved (stream : Bytes) : (Wire.Session.run start stream).unobserved =
      Wire.Session.run (Session.greet label consumer) stream := by
    rw [Session.greet_unobserved, Session.run_unobserved]
  have same : watched.unobserved = session := unobserved input
  obtain ⟨lines, replies, rest, result, continues⟩ := Session.run_continues attentive input
  have dialogue := continues.dialogue
  rw [fresh] at dialogue
  refine ⟨lines, replies, rest, result, ?_, ?_, ?_, dialogue.read, dialogue.lockStep, ?_, same, ?_⟩
  · rw [← same]
    change watched.endpoint.heard = lines
    rw [continues.heard, fresh, List.nil_append]
  · rw [← same]
    change watched.endpoint.sent = greeting :: replies
    rw [continues.sent, sent, List.singleton_append]
  · rw [← same]
    exact continues.ended
  · intro before line cut closes consumed more whole
    have finished : Wire.Session.isOver watched = true := Option.isSome_of_eq_some continues.ended
    rw [← unobserved,
      Wire.Session.run_consumed (continues.fed fresh cut closes) finished whole more]
    exact same
  · intro called
    refine (continues.idle fresh).resolve_left fun untouched => called ?_
    rw [untouched]
    exact uncalled

theorem second_begin_ends :
    let input := ["begin", "begin", "quit"].flatMap Wire.lineBytes
    let session := Wire.Session.run (Session.greet (.ofProtocol "DMTP") (⟨0⟩ : Reluctant)) input
    session.endpoint.heard = ["begin", "begin"] ∧
      session.endpoint.sent.getLast? = some "error protocol error" ∧
      session.result? = some (.error (.protocol "repeated begin")) := by
  intro input session
  have read : session.endpoint.heard = ["begin", "begin"] := by decide +kernel
  obtain ⟨lines, replies, rest, result, heard, sent, ended, _, lock_step, _⟩ :=
    answers_in_lock_step (.ofProtocol "DMTP") (⟨0⟩ : Reluctant) input
  obtain rfl : ["begin", "begin"] = lines := read.symm.trans heard
  have repeated : Violation ["begin"] "begin" (.protocol "repeated begin") :=
    .repeated (List.cons_ne_nil _ _) rfl
  obtain ⟨_, told, failed⟩ := lock_step.violation ["begin"] "begin" [] _ rfl repeated
  refine ⟨read, ?_, ended.trans (congrArg some failed)⟩
  rw [sent, List.getLast?_cons, told]
  rfl

end MailExchange.Transfer
