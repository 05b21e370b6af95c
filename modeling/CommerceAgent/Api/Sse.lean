import CommerceAgent.Api.TraceEvents
import Mathlib.Data.List.DropRight
import Mathlib.Data.List.Sort
import Mathlib.Tactic.IntervalCases

/-!
# The event stream

The cursor of an event is its position among the rows of the run. A row that sorts before an event the client has
received moves the positions of the events behind it.
-/

open CommerceAgent.Lib
open CommerceAgent.Operations (UUID)

namespace CommerceAgent.Api

variable {υ : Type}

/-! ## The source -/

/-- `ORDER BY occurred_at, attempt_id, sequence`. -/
def PublicEvent.key (event : PublicEvent υ) : ℕ ×ₗ ℕ ×ₗ ℕ :=
  toLex (event.occurred_at, toLex (event.attempt_id.toNat, event.sequence))

structure SseRunEvent (υ : Type) extends PublicEvent υ where
  cursor : ℕ

/-- The events of a run, by the view. -/
def public_events (table : List (TraceEventRow υ)) (run_id : UUID) : List (PublicEvent υ) :=
  (table.map TraceEventRow.toPublicEvent).filter fun event => event.run_id = run_id

/-- An order in which the database may number the events: rows with one key have no order of their own. -/
structure Ranked (events ranked : List (PublicEvent υ)) : Prop where
  perm : ranked.Perm events
  sorted : ranked.Pairwise fun a b => a.key ≤ b.key

/-- `row_number()` of the ranked events, from `cursor` on. -/
def numbered (cursor : ℕ) (ranked : List (PublicEvent υ)) : List (SseRunEvent υ) :=
  (ranked.zipIdx cursor).map fun item => ⟨item.1, item.2⟩

/-- `events_after(run_id, after_sequence=..., limit=...)`, with the rows ranked. -/
def events_after (ranked : List (PublicEvent υ)) (after_sequence : ℤ) (limit : ℕ) : List (SseRunEvent υ) :=
  ((numbered 1 ranked).filter fun event => after_sequence < event.cursor).take limit

/-! ## The stream -/

structure SseBlock (υ : Type) where
  id : String
  event : TraceEventType
  data : SseRunEvent υ

def format_sse_event (event : SseRunEvent υ) : SseBlock υ where
  id := String.ofList (Nat.toDigits 10 event.cursor)
  event := event.event_type
  data := event

/-- The blanks that `int` strips: in a header with a character beyond ASCII also those that only Unicode takes for one. -/
def blank (header : List Char) (c : Char) : Bool :=
  [9, 10, 11, 12, 13, 32].elem c.toNat ||
    header.any (fun other => 128 ≤ other.toNat) && [28, 29, 30, 31, 133, 160].elem c.toNat

/-- Digits with single underscores between them; `after` says that the last character read was a digit. -/
def grouped : Bool → List Char → Bool
  | after, [] => after
  | after, c :: cs => if c = '_' then after && grouped false cs else c.isDigit && grouped true cs

/-- `sys.get_int_max_str_digits()`. -/
def MAX_STR_DIGITS : ℕ := 4300

def read_digits (cs : List Char) : Option ℕ :=
  let digits := cs.filter (· ≠ '_')
  if grouped false cs ∧ digits.length ≤ MAX_STR_DIGITS then some (Nat.ofDigitChars 10 digits 0) else none

def int (header : String) : Option ℤ :=
  match (header.toList.dropWhile (blank header.toList)).rdropWhile (blank header.toList) with
  | '-' :: cs => (read_digits cs).map fun n => -(n : ℤ)
  | '+' :: cs => (read_digits cs).map Int.ofNat
  | cs => (read_digits cs).map Int.ofNat

def parse_last_event_id : Option String → Except Raised ℤ
  | none => .ok (-1)
  | some header =>
    match int header with
    | some last_event_id => .ok last_event_id
    | none => .error (.value_error "last-event-id must be an integer")

/-- The cursor of the stream after it has sent some events. -/
def last_sent_after (last_sent : ℤ) (events : List (SseRunEvent υ)) : ℤ :=
  events.foldl (fun _ event => event.cursor) last_sent

/-- The header that a client sends: the id of the last block. -/
def last_event_id (blocks : List (SseBlock υ)) : Option String := blocks.getLast?.map SseBlock.id

/-! ## Ids -/

theorem digit_not_blank {header : List Char} {c : Char} (h : c.isDigit = true) : blank header c = false := by
  unfold Char.isDigit at h
  rw [Bool.and_eq_true, decide_eq_true_iff, decide_eq_true_iff] at h
  have hlow : 48 ≤ c.toNat := h.1
  have hhigh : c.toNat ≤ 57 := h.2
  unfold blank
  generalize c.toNat = n at hlow hhigh
  interval_cases n <;> simp

theorem grouped_digits {cs : List Char} (h : ∀ c ∈ cs, c.isDigit = true) : grouped true cs = true := by
  induction cs with
  | nil => rfl
  | cons c cs ih =>
    have hc := h c List.mem_cons_self
    have hne : c ≠ '_' := by
      rintro rfl
      exact absurd hc (by decide)
    unfold grouped
    rw [if_neg hne, hc, ih fun d hd => h d (List.mem_cons_of_mem _ hd)]
    rfl

theorem int_toDigits (n : ℕ) : int (String.ofList (Nat.toDigits 10 n)) =
    if (Nat.toDigits 10 n).length ≤ MAX_STR_DIGITS then some (n : ℤ) else none := by
  have hdigit : ∀ c ∈ Nat.toDigits 10 n, c.isDigit = true := fun _ => isDigit_of_mem_toDigits
  have hread := Nat.ofDigitChars_ten_toDigits (n := n)
  obtain ⟨c, cs, hcs⟩ := List.exists_cons_of_ne_nil (Nat.toDigits_ne_nil (b := 10) (n := n))
  rw [hcs] at hdigit hread ⊢
  have hc := hdigit c List.mem_cons_self
  have hne (d : Char) (hd : d.isDigit = false) : c ≠ d := by
    rintro rfl
    rw [hc] at hd
    cases hd
  have hdigits : read_digits (c :: cs) = if (c :: cs).length ≤ MAX_STR_DIGITS then some n else none := by
    have hfilter : (c :: cs).filter (· ≠ '_') = c :: cs := by
      refine List.filter_eq_self.mpr fun d hd => decide_eq_true ?_
      rintro rfl
      exact absurd (hdigit _ hd) (by decide)
    have hgrouped : grouped false (c :: cs) = true := by
      unfold grouped
      rw [if_neg (hne '_' (by decide)), hc, grouped_digits fun d hd => hdigit d (List.mem_cons_of_mem _ hd)]
      rfl
    unfold read_digits
    dsimp only
    rw [hfilter, hread]
    simp only [hgrouped, true_and]
  have hleft : (c :: cs).dropWhile (blank (c :: cs)) = c :: cs := by
    rw [List.dropWhile_cons, digit_not_blank hc, if_neg (by simp)]
  have hright : (c :: cs).rdropWhile (blank (c :: cs)) = c :: cs := by
    rw [List.rdropWhile_eq_self_iff]
    intro hne
    rw [digit_not_blank (hdigit _ (List.getLast_mem hne))]
    simp
  unfold int
  rw [String.toList_ofList, hleft, hright]
  split
  case h_1 _ heq => exact absurd (List.cons.inj heq).1 (hne '-' (by decide))
  case h_2 _ heq => exact absurd (List.cons.inj heq).1 (hne '+' (by decide))
  case h_3 =>
    rw [hdigits]
    split_ifs <;> rfl

/-! ## The stream and its client -/

/-- The table, the cursor of the stream, and the blocks that the client has received. -/
structure StreamState (υ : Type) where
  table : List (TraceEventRow υ)
  last_sent : ℤ
  received : List (SseBlock υ)

def POLL_LIMIT : ℕ := 200

inductive Action (υ : Type) where
  | append (event : ScopedTraceEvent υ)
  | poll (ranked : List (PublicEvent υ))
  /-- The connection ends after some events of a poll. -/
  | drop (ranked : List (PublicEvent υ)) (sent : ℕ)
  | reconnect

variable (database : TraceDatabase υ) (run_id : UUID)

/-- One step of a trace writer, of the stream, or of the client. -/
inductive Step (s : StreamState υ) : Action υ → StreamState υ → Prop where
  | append {event : ScopedTraceEvent υ} {table : List (TraceEventRow υ)}
    (h : append database s.table event = .ok table) : Step s (.append event) { s with table := table }
  | reject {event : ScopedTraceEvent υ} {error : Raised} (h : append database s.table event = .error error) :
    Step s (.append event) s
  | poll {ranked : List (PublicEvent υ)} (h : Ranked (public_events s.table run_id) ranked) :
    Step s (.poll ranked)
      { s with
        last_sent := last_sent_after s.last_sent (events_after ranked s.last_sent POLL_LIMIT)
        received := s.received ++ (events_after ranked s.last_sent POLL_LIMIT).map format_sse_event }
  | drop {ranked : List (PublicEvent υ)} (h : Ranked (public_events s.table run_id) ranked) (sent : ℕ) {cursor : ℤ}
    (hheader : parse_last_event_id (last_event_id
      (s.received ++ ((events_after ranked s.last_sent POLL_LIMIT).take sent).map format_sse_event)) = .ok cursor) :
    Step s (.drop ranked sent)
      { s with
        last_sent := cursor
        received := s.received ++ ((events_after ranked s.last_sent POLL_LIMIT).take sent).map format_sse_event }
  | reconnect {cursor : ℤ} (hheader : parse_last_event_id (last_event_id s.received) = .ok cursor) :
    Step s .reconnect { s with last_sent := cursor }

/-- The states that a run reaches when each step meets a condition. -/
inductive Reached (P : StreamState υ → Action υ → Prop) : StreamState υ → Prop where
  | start : Reached P ⟨[], -1, []⟩
  | step {s s' : StreamState υ} {a : Action υ} (h : Reached P s) (hstep : Step database run_id s a s')
    (hcondition : P s a) :
    Reached P s'

/-- An event of the run comes after those that the client has received, and shares its place with none. -/
def InOrder (s : StreamState υ) : Action υ → Prop
  | .append event => event.run_scope.run_id = run_id →
      (∀ block ∈ s.received, block.data.key < (event.row database).key) ∧
      ∀ other ∈ public_events s.table run_id, other.key ≠ (event.row database).key
  | _ => True

/-- A poll finds nothing new. -/
def CaughtUp (s : StreamState υ) : Prop :=
  ∃ ranked, Ranked (public_events s.table run_id) ranked ∧ events_after ranked s.last_sent POLL_LIMIT = []

/-- The client has each event of the run once. -/
def ExactlyOnce (s : StreamState υ) : Prop :=
  (s.received.map fun block => block.data.toPublicEvent).Perm (public_events s.table run_id)

/-! ## Numbering -/

variable {run_id} {database} {s s' : StreamState υ} {sent rest ranked events : List (PublicEvent υ)}

theorem Ranked.unique (h : Ranked events ranked) (hperm : rest.Perm events)
    (hsorted : rest.Pairwise fun a b => a.key < b.key) : ranked = rest := by
  have hdistinct : ranked.Pairwise fun a b => a.key ≠ b.key :=
    (h.perm.trans hperm.symm).symm.pairwise (hsorted.imp ne_of_lt) fun h => Ne.symm h
  have hranked : ranked.Pairwise fun a b => a.key < b.key :=
    (h.sorted.and hdistinct).imp fun ⟨hle, hne⟩ => lt_of_le_of_ne hle hne
  have hantisymm : ∀ a b, a ∈ ranked → b ∈ rest → a.key < b.key → b.key < a.key → a = b := fun a b _ _ hab hba =>
    absurd hab hba.not_gt
  exact List.Perm.eq_of_pairwise hantisymm hranked hsorted (h.perm.trans hperm.symm)

theorem numbered_append (cursor : ℕ) :
    numbered cursor (sent ++ rest) = numbered cursor sent ++ numbered (cursor + sent.length) rest := by
  unfold numbered
  rw [List.zipIdx_append, List.map_append]

theorem sent_of_numbered (cursor : ℕ) : (numbered cursor events).map SseRunEvent.toPublicEvent = events := by
  unfold numbered
  rw [List.map_map]
  exact List.zipIdx_map_fst cursor events

theorem numbered_take (cursor count : ℕ) : (numbered cursor rest).take count = numbered cursor (rest.take count) := by
  unfold numbered
  induction rest generalizing cursor count with
  | nil => simp
  | cons event rest ih =>
    cases count with
    | zero => rfl
    | succ count =>
      rw [List.zipIdx_cons, List.map_cons, List.take_succ_cons, ih, List.take_succ_cons, List.zipIdx_cons,
        List.map_cons]

theorem cursor_bounds {cursor : ℕ} {event : SseRunEvent υ} (h : event ∈ numbered cursor events) :
    cursor ≤ event.cursor ∧ event.cursor < cursor + events.length := by
  unfold numbered at h
  obtain ⟨item, hitem, rfl⟩ := List.mem_map.mp h
  obtain ⟨hle, hlt, -⟩ := List.mem_zipIdx hitem
  exact ⟨hle, hlt⟩

/-- The cursor behind the events that were sent. -/
def cursor_of (sent : List (PublicEvent υ)) : ℤ := if sent = [] then -1 else sent.length

theorem events_after_sent (limit : ℕ) :
    events_after (sent ++ rest) (cursor_of sent) limit = numbered (sent.length + 1) (rest.take limit) := by
  have hsent : (numbered 1 sent).filter (fun event => cursor_of sent < event.cursor) = [] := by
    refine List.filter_eq_nil_iff.mpr fun event hmem => ?_
    have hbounds := cursor_bounds hmem
    have hne : sent ≠ [] := by
      rintro rfl
      cases hmem
    unfold cursor_of
    rw [if_neg hne, decide_eq_true_iff]
    omega
  have hrest : (numbered (1 + sent.length) rest).filter (fun event => cursor_of sent < event.cursor) =
      numbered (1 + sent.length) rest := by
    refine List.filter_eq_self.mpr fun event hmem => ?_
    have hbounds := cursor_bounds hmem
    unfold cursor_of
    rw [decide_eq_true_iff]
    split_ifs <;> omega
  unfold events_after
  rw [numbered_append, List.filter_append, hsent, hrest, List.nil_append, numbered_take, Nat.add_comm]

theorem numbered_concat (cursor : ℕ) (event : PublicEvent υ) :
    numbered cursor (events ++ [event]) = numbered cursor events ++ [⟨event, cursor + events.length⟩] :=
      numbered_append cursor

theorem cursor_of_concat (event : PublicEvent υ) : cursor_of (sent ++ [event]) = (1 + sent.length : ℕ) := by
  unfold cursor_of
  rw [if_neg (by simp), List.length_append, List.length_singleton, Nat.add_comm]

theorem last_sent_after_numbered :
    last_sent_after (cursor_of sent) (numbered (sent.length + 1) rest) = cursor_of (sent ++ rest) := by
  induction rest using List.reverseRecOn with
  | nil => rw [List.append_nil]; rfl
  | append_singleton rest event =>
    rw [numbered_concat, ← List.append_assoc, cursor_of_concat]
    unfold last_sent_after
    rw [List.foldl_append, List.length_append, List.foldl_cons, List.foldl_nil]
    push_cast
    ring

/-- The client's header, if it is read at all, takes the stream behind what the client has received. -/
theorem cursor_of_header {cursor : ℤ}
    (h : parse_last_event_id (last_event_id ((numbered 1 sent).map format_sse_event)) = .ok cursor) :
    cursor = cursor_of sent := by
  unfold last_event_id at h
  induction sent using List.reverseRecOn with
  | nil => exact (Except.ok.inj h).symm
  | append_singleton sent event =>
    rw [numbered_concat, List.map_append, List.map_singleton, List.getLast?_concat] at h
    rw [cursor_of_concat]
    unfold parse_last_event_id format_sse_event at h
    dsimp only [Option.map_some] at h
    rw [int_toDigits] at h
    split_ifs at h
    exact (Except.ok.inj h).symm

/-! ## The invariant -/

/-- The client has the first events of the run, and the others come behind. -/
structure Sent (run_id : UUID) (s : StreamState υ) (sent rest : List (PublicEvent υ)) : Prop where
  received : s.received = (numbered 1 sent).map format_sse_event
  last_sent : s.last_sent = cursor_of sent
  perm : (sent ++ rest).Perm (public_events s.table run_id)
  sorted : (sent ++ rest).Pairwise fun a b => a.key < b.key

theorem Sent.ranked_eq (h : Sent run_id s sent rest) (hranked : Ranked (public_events s.table run_id) ranked) :
    ranked = sent ++ rest := hranked.unique h.perm h.sorted

theorem Sent.events_after (h : Sent run_id s sent rest) (hranked : Ranked (public_events s.table run_id) ranked)
    (limit : ℕ) : events_after ranked s.last_sent limit = numbered (sent.length + 1) (rest.take limit) := by
  rw [h.ranked_eq hranked, h.last_sent, events_after_sent]

theorem Sent.deliver (h : Sent run_id s sent rest) (count : ℕ) : Sent run_id
    { s with
      last_sent := cursor_of (sent ++ rest.take count)
      received := s.received ++ (numbered (sent.length + 1) (rest.take count)).map format_sse_event }
    (sent ++ rest.take count) (rest.drop count) where
  received := by
    dsimp only
    rw [h.received, numbered_append, List.map_append, Nat.add_comm]
  last_sent := rfl
  perm := by
    rw [List.append_assoc, List.take_append_drop]
    exact h.perm
  sorted := by
    rw [List.append_assoc, List.take_append_drop]
    exact h.sorted

theorem exists_insert {event : PublicEvent υ} (hsorted : rest.Pairwise fun a b => a.key < b.key)
    (hne : ∀ other ∈ rest, other.key ≠ event.key) :
    ∃ rest' : List (PublicEvent υ), rest'.Perm (event :: rest) ∧ rest'.Pairwise fun a b => a.key < b.key := by
  induction rest with
  | nil => exact ⟨[event], .refl _, List.pairwise_singleton _ _⟩
  | cons first rest ih =>
    obtain ⟨hfirst, hrest⟩ := List.pairwise_cons.mp hsorted
    rcases lt_or_gt_of_ne (hne first List.mem_cons_self) with hlt | hgt
    · obtain ⟨rest', hperm, hsorted'⟩ := ih hrest fun other hmem => hne other (List.mem_cons_of_mem _ hmem)
      refine ⟨first :: rest', (hperm.cons first).trans (.swap _ _ _), List.pairwise_cons.mpr ⟨?_, hsorted'⟩⟩
      intro other hmem
      rcases List.mem_cons.mp (hperm.mem_iff.mp hmem) with rfl | hmem
      · exact hlt
      · exact hfirst other hmem
    · refine ⟨event :: first :: rest, .refl _, List.pairwise_cons.mpr ⟨?_, hsorted⟩⟩
      exact List.forall_mem_cons.mpr ⟨hgt, fun other hmem => hgt.trans (hfirst other hmem)⟩

theorem public_events_append (table : List (TraceEventRow υ)) (row : TraceEventRow υ) :
    public_events (table ++ [row]) run_id =
      public_events table run_id ++ if row.run_id = run_id then [row.toPublicEvent] else [] := by
  unfold public_events
  rw [List.map_append, List.filter_append, List.map_singleton]
  congr 1
  by_cases hrun : row.run_id = run_id
  · rw [if_pos hrun]
    exact List.filter_cons_of_pos (decide_eq_true hrun)
  · rw [if_neg hrun]
    exact List.filter_cons_of_neg fun h => hrun (of_decide_eq_true h)

theorem Sent.received_data (h : Sent run_id s sent rest) {event : PublicEvent υ} (hmem : event ∈ sent) :
    ∃ block ∈ s.received, block.data.toPublicEvent = event := by
  have hpublic : event ∈ (numbered 1 sent).map SseRunEvent.toPublicEvent := by rwa [sent_of_numbered]
  obtain ⟨run_event, hnumbered, rfl⟩ := List.mem_map.mp hpublic
  refine ⟨format_sse_event run_event, ?_, rfl⟩
  rw [h.received]
  exact List.mem_map_of_mem hnumbered

/-- A row of the run that is in order is one of those that come next. -/
theorem Sent.append {event : ScopedTraceEvent υ} (h : Sent run_id s sent rest)
    (horder : InOrder database run_id s (.append event)) : ∃ rest',
    Sent run_id { s with table := s.table ++ [event.row database] } sent rest' := by
  have hevents : public_events (s.table ++ [event.row database]) run_id = public_events s.table run_id ++
      if event.run_scope.run_id = run_id then [(event.row database).toPublicEvent] else [] :=
    public_events_append s.table (event.row database)
  by_cases hrun : event.run_scope.run_id = run_id
  · obtain ⟨hafter, hne⟩ := horder hrun
    rw [if_pos hrun] at hevents
    obtain ⟨hsent, hrest, hcross⟩ := List.pairwise_append.mp h.sorted
    obtain ⟨rest', hperm, hsorted⟩ := exists_insert hrest fun other hmem =>
      hne other (h.perm.mem_iff.mp (List.mem_append_right _ hmem))
    refine ⟨rest', h.received, h.last_sent, ?_, List.pairwise_append.mpr ⟨hsent, hsorted, fun a ha b hb => ?_⟩⟩
    · rw [hevents]
      calc (sent ++ rest').Perm (sent ++ ((event.row database).toPublicEvent :: rest)) := hperm.append_left sent
        List.Perm _ ((event.row database).toPublicEvent :: (sent ++ rest)) := List.perm_middle
        List.Perm _ (sent ++ rest ++ [(event.row database).toPublicEvent]) := (List.perm_append_singleton _ _).symm
        List.Perm _ _ := h.perm.append_right _
    · rcases List.mem_cons.mp (hperm.mem_iff.mp hb) with rfl | hb
      · obtain ⟨block, hblock, rfl⟩ := h.received_data ha
        exact hafter block hblock
      · exact hcross a ha b hb
  · rw [if_neg hrun, List.append_nil] at hevents
    exact ⟨rest, h.received, h.last_sent, hevents ▸ h.perm, h.sorted⟩

theorem Sent.step (h : Sent run_id s sent rest) {a : Action υ} (hstep : Step database run_id s a s')
    (horder : InOrder database run_id s a) : ∃ sent' rest', Sent run_id s' sent' rest' := by
  cases hstep with
  | append happend =>
    obtain rfl := append_ok database happend
    obtain ⟨rest', h'⟩ := h.append horder
    exact ⟨sent, rest', h'⟩
  | reject => exact ⟨sent, rest, h⟩
  | poll hranked =>
    have hnext := h.deliver POLL_LIMIT
    rw [h.events_after hranked, h.last_sent, last_sent_after_numbered]
    exact ⟨_, _, hnext⟩
  | drop hranked count hheader =>
    have hnext := h.deliver (min count POLL_LIMIT)
    rw [h.events_after hranked, numbered_take, List.take_take] at hheader ⊢
    have hreceived := hnext.received
    dsimp only at hreceived
    rw [hreceived] at hheader
    rw [cursor_of_header hheader]
    exact ⟨_, _, hnext⟩
  | reconnect hheader =>
    rw [h.received] at hheader
    obtain rfl := cursor_of_header hheader
    exact ⟨sent, rest, h.received, rfl, h.perm, h.sorted⟩

/-- In a run whose events come in order, the client has the first of them. -/
theorem reached_sent (h : Reached database run_id (InOrder database run_id) s) :
    ∃ sent rest, Sent run_id s sent rest := by
  induction h with
  | start => exact ⟨[], [], rfl, rfl, .refl _, .nil⟩
  | step _ hstep horder ih =>
    obtain ⟨sent, rest, hsent⟩ := ih
    exact hsent.step hstep horder

/-- A stream that has caught up has sent each event of the run once, when the events came in order. -/
theorem delivered_once (database : TraceDatabase υ) (run_id : UUID) (s : StreamState υ)
    (h : Reached database run_id (InOrder database run_id) s) (hcaught : CaughtUp run_id s) : ExactlyOnce run_id s := by
  obtain ⟨sent, rest, hsent⟩ := reached_sent h
  obtain ⟨ranked, hranked, hnone⟩ := hcaught
  have hrest : rest = [] := by
    rw [hsent.events_after hranked] at hnone
    cases rest with
    | nil => rfl
    | cons event rest => cases hnone
  have hreceived : s.received.map (fun block => block.data.toPublicEvent) = sent := by
    rw [hsent.received, List.map_map]
    exact sent_of_numbered 1
  unfold ExactlyOnce
  rw [hreceived]
  have hperm := hsent.perm
  rwa [hrest, List.append_nil] at hperm

/-! ## Two events -/

def sampleDatabase : TraceDatabase Unit where
  run_scope_digest := fun _ => Operations.HexDigest.ofNat 0
  event_id := fun _ _ sequence => BitVec.ofNat 128 sequence
  casefold := id
  storable := fun _ => true

/-- An event of a retail run. -/
def sampleEvent (sequence : ℕ) (occurred_at : Operations.Datetime) : ScopedTraceEvent Unit where
  run_scope :=
    { Orchestration.sampleScope .a (by simp) with track := .retail, mode := .retail, same_track := by simp }
  attempt_id := 2
  sequence := sequence
  occurred_at := occurred_at
  event_type := .sql_generated
  status := .succeeded
  reason_code := none
  safe_summary := ⟨none, none, none, [], none, none, [], none⟩

theorem first_instant : 1 < Calendar.maxDays * 86400 * Operations.second := by decide

def firstEvent : ScopedTraceEvent Unit := sampleEvent 0 (.utc 1 first_instant)

def secondEvent : ScopedTraceEvent Unit := sampleEvent 1 (.utc 2 (by decide))

def firstPublic : PublicEvent Unit := (firstEvent.row sampleDatabase).toPublicEvent

def secondPublic : PublicEvent Unit := (secondEvent.row sampleDatabase).toPublicEvent

theorem first_before_second : firstPublic.key < secondPublic.key := by decide

theorem reached_poll {P : StreamState υ → Action υ → Prop} (h : Reached database run_id P s)
    (hranked : Ranked (public_events s.table run_id) ranked) {new : List (SseRunEvent υ)}
    (hnew : events_after ranked s.last_sent POLL_LIMIT = new) (hcondition : P s (.poll ranked)) :
    Reached database run_id P
      ⟨s.table, last_sent_after s.last_sent new, s.received ++ new.map format_sse_event⟩ := by
  rw [← hnew]
  exact .step h (.poll hranked) hcondition

/-- The first event is polled, the second is committed, a poll breaks off before it is sent, and the client comes back. -/
theorem both_delivered : ExactlyOnce 1 ⟨[firstEvent.row sampleDatabase, secondEvent.row sampleDatabase], 2,
    [format_sse_event ⟨firstPublic, 1⟩, format_sse_event ⟨secondPublic, 2⟩]⟩ := by
  have hfirst : Ranked (public_events [firstEvent.row sampleDatabase] 1) [firstPublic] :=
    ⟨.refl _, List.pairwise_singleton _ _⟩
  have hboth : Ranked (public_events [firstEvent.row sampleDatabase, secondEvent.row sampleDatabase] 1)
      [firstPublic, secondPublic] :=
    ⟨.refl _, List.pairwise_pair.mpr first_before_second.le⟩
  have hstarted : Reached sampleDatabase 1 (InOrder sampleDatabase 1) ⟨[firstEvent.row sampleDatabase], -1, []⟩ := by
    refine .step .start (a := .append firstEvent) (.append rfl) fun _ => ⟨?_, ?_⟩
    · exact fun _ h => absurd h List.not_mem_nil
    · exact fun _ h => absurd h List.not_mem_nil
  have hpolled : Reached sampleDatabase 1 (InOrder sampleDatabase 1)
      ⟨[firstEvent.row sampleDatabase], 1, [format_sse_event ⟨firstPublic, 1⟩]⟩ :=
    reached_poll hstarted hfirst rfl True.intro
  have happended : Reached sampleDatabase 1 (InOrder sampleDatabase 1)
      ⟨[firstEvent.row sampleDatabase, secondEvent.row sampleDatabase], 1, [format_sse_event ⟨firstPublic, 1⟩]⟩ := by
    refine .step hpolled (a := .append secondEvent) (.append rfl) fun _ => ⟨?_, ?_⟩
    · intro block hblock
      rw [List.mem_singleton.mp hblock]
      exact first_before_second
    · intro other hother
      rw [List.mem_singleton.mp hother]
      exact first_before_second.ne
  have hheader : parse_last_event_id (last_event_id [format_sse_event ⟨firstPublic, 1⟩]) = .ok 1 := by decide
  have hbroken := happended.step (a := .drop [firstPublic, secondPublic] 0) (.drop hboth 0 hheader) True.intro
  have hback := hbroken.step (a := .reconnect) (.reconnect hheader) True.intro
  exact delivered_once sampleDatabase 1 _ (reached_poll hback hboth rfl True.intro) ⟨_, hboth, rfl⟩

/-- The second event is committed and polled before the first: it is sent twice, and the first is never sent. -/
theorem late_commit_missed : ∃ s : StreamState Unit, Reached sampleDatabase 1 (fun _ _ => True) s ∧ CaughtUp 1 s ∧
    s.received.map (fun block => block.data.toPublicEvent) = [secondPublic, secondPublic] ∧
    firstPublic ∈ public_events s.table 1 ∧ ¬ ExactlyOnce 1 s := by
  have hsecond : Ranked (public_events [secondEvent.row sampleDatabase] 1) [secondPublic] :=
    ⟨.refl _, List.pairwise_singleton _ _⟩
  have hboth : Ranked (public_events [secondEvent.row sampleDatabase, firstEvent.row sampleDatabase] 1)
      [firstPublic, secondPublic] :=
    ⟨.swap _ _ _, List.pairwise_pair.mpr first_before_second.le⟩
  have hmem : firstPublic ∈ public_events [secondEvent.row sampleDatabase, firstEvent.row sampleDatabase] 1 :=
    hboth.perm.mem_iff.mp List.mem_cons_self
  have hstarted : Reached sampleDatabase 1 (fun _ _ => True) ⟨[secondEvent.row sampleDatabase], -1, []⟩ :=
    .step .start (a := .append secondEvent) (.append rfl) True.intro
  have hpolled : Reached sampleDatabase 1 (fun _ _ => True)
      ⟨[secondEvent.row sampleDatabase], 1, [format_sse_event ⟨secondPublic, 1⟩]⟩ :=
    reached_poll hstarted hsecond rfl True.intro
  have happended : Reached sampleDatabase 1 (fun _ _ => True)
      ⟨[secondEvent.row sampleDatabase, firstEvent.row sampleDatabase], 1, [format_sse_event ⟨secondPublic, 1⟩]⟩ :=
    .step hpolled (a := .append firstEvent) (.append rfl) True.intro
  have hreached : Reached sampleDatabase 1 (fun _ _ => True)
      ⟨[secondEvent.row sampleDatabase, firstEvent.row sampleDatabase], 2,
        [format_sse_event ⟨secondPublic, 1⟩, format_sse_event ⟨secondPublic, 2⟩]⟩ :=
    reached_poll happended hboth rfl True.intro
  refine ⟨_, hreached, ⟨_, hboth, rfl⟩, rfl, hmem, fun h => ?_⟩
  have hsent : firstPublic ∈ [secondPublic, secondPublic] := h.mem_iff.mpr hmem
  have heq : firstPublic = secondPublic := by
    rcases List.mem_pair.mp hsent with h | h <;> exact h
  exact absurd (heq ▸ first_before_second) (lt_irrefl _)

end CommerceAgent.Api
