import VncAccess.Text.Basic

/-! What the tool says about itself. -/

namespace VncAccess.CommandLine

def usage : String := "Usage: vncpasswd [OPTIONS] [FILE]"

def helpHint : String := "Try 'vncpasswd --help' for help."

def helpLines : List String := [
  usage,
  "",
  "  vncpasswd: set VNC passwords and manage access to running servers.",
  "",
  "  Without options, asks for a full-control password (and optionally a view-",
  "  only password) and stores it, encrypted, in ~/.vnc/passwd.",
  "",
  "  The -o, -c, -a and -r options talk to a running VNC server through its X",
  "  display instead of writing a password file.",
  "",
  "  Examples:",
  "",
  "      # Set the password for the default password file     vncpasswd",
  "",
  "      # Create a password file from a script     printf 'secret1\\nviewpw1\\n' |",
  "      vncpasswd -f > passwd",
  "",
  "      # Hand out one-time passwords for display :1     vncpasswd -o -v",
  "      -display :1",
  "",
  "Options:",
  "  -v                              Also set a view-only password",
  "  -f                              Read passwords from stdin, write file to",
  "                                  stdout",
  "  -t                              Store the password in /tmp/$USER-vnc",
  "  -o                              Generate one-time passwords for a running",
  "                                  server",
  "  -c                              Clear one-time passwords of a running server",
  "  -a USER                         Add USER to the server's access list",
  "  -r USER                         Remove USER from the server's access list",
  "  -display, --display VNC-DISPLAY",
  "                                  X display of the running VNC server",
  "                                  (default: $DISPLAY)",
  "  --config PATH                   Path to settings file (default:",
  "                                  ~/.config/vncpasswd/config.toml)",
  "  --no-color                      Disable colored output",
  "  --verbose                       Enable verbose output",
  "  --debug                         Enable debug output (implies --verbose)",
  "  --version                       Show the version and exit.",
  "  --help                          Show this message and exit.",
  "",
  "  Usage forms:",
  "    vncpasswd [-v] [FILE]",
  "    vncpasswd -f",
  "    vncpasswd -t [-v]",
  "    vncpasswd -o [-v] [-display VNC-DISPLAY]",
  "    vncpasswd -c [-display VNC-DISPLAY]",
  "    vncpasswd -a USER [-v] [-display VNC-DISPLAY]",
  "    vncpasswd -r USER [-display VNC-DISPLAY]"]

def helpText : Text := helpLines.flatMap fun line => Text.ofString line ++ [Text.newline]

def versionText : Text := "vncpasswd, version 1.0.0\n"

end VncAccess.CommandLine
