import RecordStream.Logging.Console

/-! Which lines reach the log. -/

namespace RecordStream

variable {c : Console} {moment : Moment}

theorem LogLine.infix_text (l : LogLine) (colored : Bool) (moment : Moment) :
    l.message <:+: l.text colored moment :=
  (List.suffix_append _ _).isInfix

namespace Console

theorem write_of_lt {l : LogLine} (h : l.level < c.level) : c.write moment l = [] := by
  unfold write
  rw [if_neg (by omega)]

theorem writeAll_eq_nil {lines : List LogLine} (h : ∀ l ∈ lines, l.level < c.level) :
    c.writeAll moment lines = [] :=
  List.flatMap_eq_nil_iff.2 fun l hl => write_of_lt (h l hl)

theorem infix_write (c : Console) (moment : Moment) {l : LogLine} (hpos : 0 < l.level)
    (hlevel : c.level ≤ l.level) (hhandler : c.handler.isSome) : l.message <:+: c.write moment l := by
  obtain ⟨h, hh⟩ := Option.isSome_iff_exists.1 hhandler
  unfold write
  rw [if_pos ⟨hpos, hlevel⟩, hh]
  exact (l.infix_text _ _).trans (List.prefix_append _ _).isInfix

theorem infix_writeAll {l : LogLine} {lines : List LogLine} (hmem : l ∈ lines)
    (hpos : 0 < l.level) (hlevel : c.level ≤ l.level) (hhandler : c.handler.isSome) :
    l.message <:+: c.writeAll moment lines := by
  obtain ⟨front, back, rfl⟩ := List.append_of_mem hmem
  have hline := c.infix_write moment hpos hlevel hhandler
  unfold writeAll
  rw [List.flatMap_append, List.flatMap_cons]
  exact hline.trans ((List.prefix_append _ _).isInfix.trans (List.suffix_append _ _).isInfix)

end Console

end RecordStream
