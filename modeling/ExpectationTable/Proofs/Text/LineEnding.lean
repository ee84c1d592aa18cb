import ExpectationTable.Text.LineEnding

/-!
# What trimming takes off

Trimming takes off one of four endings, and nothing else. Two of them, a line feed and a carriage
return with a line feed, end a line. The others are no end of a line: there is none, or there is a
carriage return with nothing behind it. So trimming takes off the terminator of a line and no more,
unless the line ends with a carriage return.
-/

namespace ExpectationTable.Text

/-- All that trimming may take off. -/
def lineEndings : List String :=
  ["", "\r", "\n", "\r\n"]

/-- A line is its trimmed text and one of the endings that trimming may take off. -/
theorem exists_eq_trimLineEnding_append (line : String) :
    ∃ ending ∈ lineEndings, line = trimLineEnding line ++ ending := by
  have parts : ∃ ending ∈ lineEndings,
      line.toList = dropFinal '\r' (dropFinal '\n' line.toList) ++ ending.toList := by
    rcases dropFinal_eq_or '\n' line.toList with noFeed | feed
    · rw [noFeed]
      rcases dropFinal_eq_or '\r' line.toList with noReturn | carriage
      · exact ⟨"", by decide, by simp [noReturn]⟩
      · exact ⟨"\r", by decide, carriage⟩
    · rcases dropFinal_eq_or '\r' (dropFinal '\n' line.toList) with noReturn | carriage
      · refine ⟨"\n", by decide, ?_⟩
        rw [noReturn]
        exact feed
      · refine ⟨"\r\n", by decide, ?_⟩
        calc
          line.toList = dropFinal '\n' line.toList ++ ['\n'] := feed
          _ = dropFinal '\r' (dropFinal '\n' line.toList) ++ ['\r'] ++ ['\n'] := by rw [← carriage]
          _ = dropFinal '\r' (dropFinal '\n' line.toList) ++ "\r\n".toList := by simp
  rcases parts with ⟨ending, member, whole⟩
  refine ⟨ending, member, ?_⟩
  rw [← String.toList_inj, String.toList_append, toList_trimLineEnding]
  exact whole

/-- The text without a terminator at its end: one line feed, or one carriage return with a line
feed. -/
def dropTerminator (text : List Char) : List Char :=
  if ['\r', '\n'] <:+ text then text.dropLast.dropLast
  else if ['\n'] <:+ text then text.dropLast
  else text

def withoutTerminator (line : String) : String :=
  String.ofList (dropTerminator line.toList)

theorem dropTerminator_append_lineFeed (text : List Char) :
    dropTerminator (text ++ ['\n']) = dropFinal '\r' text := by
  have feed : ['\n'] <:+ text ++ ['\n'] := List.suffix_append text ['\n']
  have pair : ['\r', '\n'] <:+ text ++ ['\n'] ↔ text.getLast? = some '\r' := by
    rw [List.getLast?_eq_some_iff]
    apply exists_congr
    intro start
    have parts : start ++ ['\r', '\n'] = start ++ ['\r'] ++ ['\n'] := by simp
    rw [parts, List.append_left_inj, eq_comm]
  simp only [dropTerminator, dropFinal, pair, if_pos feed, List.dropLast_concat]

theorem dropTerminator_of_getLast?_ne {text : List Char} (other : text.getLast? ≠ some '\n') :
    dropTerminator text = text := by
  have noFeed : ¬['\n'] <:+ text := by
    rintro ⟨start, rfl⟩
    exact other List.getLast?_concat
  have noPair : ¬['\r', '\n'] <:+ text := fun pair =>
    noFeed ((List.suffix_cons '\r' ['\n']).trans pair)
  rw [dropTerminator, if_neg noPair, if_neg noFeed]

/-- Trimming takes off the terminator alone, unless the line ends with a carriage return. -/
theorem trimLineEnding_eq_withoutTerminator_iff (line : String) :
    trimLineEnding line = withoutTerminator line ↔ line.toList.getLast? ≠ some '\r' := by
  rw [trimLineEnding, withoutTerminator, String.ofList_inj]
  cases List.eq_nil_or_concat line.toList with
  | inl empty =>
      rw [empty]
      decide
  | inr split =>
      rcases split with ⟨start, final, whole⟩
      rw [List.concat_eq_append] at whole
      rw [whole, List.getLast?_concat]
      by_cases feed : final = '\n'
      · subst feed
        rw [dropFinal_concat_self, dropTerminator_append_lineFeed]
        simp
      · rw [dropFinal_concat_of_ne feed, dropTerminator_of_getLast?_ne (by simpa using feed)]
        by_cases carriage : final = '\r'
        · subst carriage
          simp
        · rw [dropFinal_concat_of_ne carriage]
          simp [carriage]

section Return

variable {line : String} (ends : line.toList.getLast? = some '\r')

include ends

theorem withoutTerminator_of_return : withoutTerminator line = line := by
  rw [withoutTerminator, dropTerminator_of_getLast?_ne (by simp [ends]), String.ofList_toList]

theorem trimLineEnding_append_of_return : trimLineEnding line ++ "\r" = line := by
  rcases List.getLast?_eq_some_iff.mp ends with ⟨start, whole⟩
  rw [← String.toList_inj, String.toList_append, toList_trimLineEnding, whole,
    dropFinal_concat_of_ne (by decide), dropFinal_concat_self]
  rfl

end Return

end ExpectationTable.Text
