import TreeIndex.Disk.Place
import TreeIndex.Settings

/-!
# A user's defaults

* `defaultsPath`: where the defaults of a user lie, in the home folder;
* `Settings.withUserDefaults`: the settings with these defaults, if they are there.
-/

namespace TreeIndex

/-- Where the defaults of a user lie, **in the home folder**. -/
def defaultsPath (home : Path) : Path :=
  (home.child ".source_framework").child "root.config"

/-- The settings of a user: the defaults in the home folder are used if there is such a file. -/
def Settings.withUserDefaults (d : Disk) (home : Option Path) : Settings :=
  { baseConfig := (home.map defaultsPath).filter d.isFile }

end TreeIndex
