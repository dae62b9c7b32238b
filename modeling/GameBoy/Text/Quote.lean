/-!
# Quoted names

Messages show titles, paths and arguments between apostrophes.
-/

namespace GameBoy.Text

/-- A text between apostrophes. -/
def quote (text : String) : String := "'" ++ text ++ "'"

end GameBoy.Text
