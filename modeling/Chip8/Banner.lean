/-!
How the program names itself.
-/

namespace Chip8.Banner

def name : String := "Chipotto"

def version : String := "0.1.0"

def terms : String := "Licensed under GNU Affero General Public License v3.0"

/-- Name and version, in front of what else a line says. -/
def intro : String := name ++ " V" ++ version ++ " -- "

/-- The first line of a session. -/
def line : String := intro ++ terms

end Chip8.Banner
