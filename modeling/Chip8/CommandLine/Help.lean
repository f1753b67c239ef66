/-!
The help text of the command line, for lines of eighty columns.
-/

namespace Chip8.CommandLine

def helpLines : List String := [
  "usage: chipotto [-h] [-c CLOCK_SPEED] [--colour1 COLOUR1] [--colour2 COLOUR2]",
  "                [-r \x7bpygame,null\x7d] [-s SCALE] [-k KEYMAP] [-d]",
  "                filename",
  "",
  "Simple CHIP-8 emulator",
  "",
  "positional arguments:",
  "  filename              ROM to execute (normally ending in .ch8 or .c8)",
  "",
  "options:",
  "  -h, --help            show this help message and exit",
  "  -c CLOCK_SPEED, --clock_speed CLOCK_SPEED",
  "                        set the CPU speed in operations/second (default 500)",
  "  --colour1 COLOUR1     colour of unset pixels in hex, e.g. 000000 or #000000",
  "                        (default black)",
  "  --colour2 COLOUR2     colour of set pixels in hex, e.g. FFFFFF or #FFFFFF",
  "                        (default white)",
  "  -r \x7bpygame,null\x7d, --renderer \x7bpygame,null\x7d",
  "                        set the rendering and input systems (pygame by",
  "                        default)",
  "  -s SCALE, --scale SCALE",
  "                        set the window width in PyGame mode (default 512)",
  "  -k KEYMAP, --keymap KEYMAP",
  "                        redefine the 16 keyscan codes for keys 0-F. Separate",
  "                        each decimal with a comma",
  "  -d, --debug           enable live debug output. Slows CPU execution"]

def helpText : String := String.join (helpLines.map (· ++ "\n"))

end Chip8.CommandLine
