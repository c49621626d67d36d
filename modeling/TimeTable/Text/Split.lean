namespace TimeTable

/-- The parts of a text between occurrences of a character: one more than there are occurrences. -/
def Text.split (separator : Char) : List Char → List (List Char)
  | [] => [[]]
  | c :: s =>
    if c = separator then [] :: Text.split separator s
    else match Text.split separator s with
      | [] => [[c]]
      | part :: parts => (c :: part) :: parts

@[simp] theorem Text.split_separator (separator : Char) (s : List Char) :
    Text.split separator (separator :: s) = [] :: Text.split separator s := by
  simp [Text.split]

end TimeTable
