import RecordListing.Surroundings

namespace RecordListing.Settings.Paths

/-!
# Where settings and logs are kept

The directories for settings and for data come from the environment, or else lie
below the home directory.
-/

def home? (s : Surroundings) : Option String := s.nonEmpty? "HOME"

def configHome? (s : Surroundings) : Option String :=
  (s.nonEmpty? "XDG_CONFIG_HOME").or ((home? s).map fun h => Path.join h ".config")

def dataHome? (s : Surroundings) : Option String :=
  (s.nonEmpty? "XDG_DATA_HOME").or
    ((home? s).map fun h => Path.join (Path.join h ".local") "share")

/-- The settings file that is read when none is named. -/
def globalFile? (s : Surroundings) : Option String :=
  (configHome? s).map fun d => Path.join (Path.join d "sltable") "config.toml"

def defaultLogFile? (s : Surroundings) : Option String :=
  (dataHome? s).map fun d => Path.join (Path.join d "sltable") "sltable.log"

def noHomeMessage : String := "Could not determine home directory"

end RecordListing.Settings.Paths
