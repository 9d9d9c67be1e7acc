/-!
# Help and version

The texts that the program prints when it is asked for information.

* `Help.short` and `Help.long` describe the options, and `Help.version` names the version.
-/

namespace Testbed.CommandLine.Help

/-- The number of the version. -/
def versionNumber : String := "0.1.0"

/-- The version as it is printed. -/
def version : String := "dsrun " ++ versionNumber ++ "\n"

/-- Lines, each with a newline after it. -/
def unlines (lines : List String) : String := String.join (lines.map (· ++ "\n"))

/-- The options, one on a line. -/
def short : String :=
  unlines [
    "Runs either all unit tests in the project or the tests for a specific data structure",
    "",
    "Usage: dsrun [OPTIONS]",
    "",
    "Options:",
    "  -l, --list-tests              List the name of the tests you can choose",
    "  -r, --run-all                 Run all tests available",
    "  -t, --test-name <NAME>        Run a specific data structure's tests. Use \"--list-tests\" to get a listing of the available test names",
    "  -b, --build [<PATH>]          Build and compile the project into the build directory specified [default: ./build]",
    "  -S, --source-dir <PATH>       Project source directory handed to the configure step [default: .]",
    "  -j, --jobs <N>                Worker count for compiling and running tests (default: logical cores)",
    "      --layout <LAYOUT>         Where compiled tests live inside the build directory [default: test-bin] [possible values: test-bin, groups]",
    "      --group-dir <NAME>        Group root inside the build directory (groups layout) [default: src]",
    "      --binary-suffix <SUFFIX>  File name suffix of a group's test binary (groups layout) [default: gtest]",
    "      --strict                  Stop when the configure or compile step fails",
    "      --cmake <PROGRAM>         Build-system executable [default: cmake]",
    "      --ctest <PROGRAM>         Test-runner executable [default: ctest]",
    "  -h, --help                    Print help (see more with '--help')",
    "  -V, --version                 Print version"]

/-- The options at length. -/
def long : String :=
  unlines [
    "Runs either all unit tests in the project or the tests for a specific data structure",
    "",
    "Usage: dsrun [OPTIONS]",
    "",
    "Options:",
    "  -l, --list-tests",
    "          List the name of the tests you can choose",
    "",
    "  -r, --run-all",
    "          Run all tests available",
    "",
    "  -t, --test-name <NAME>",
    "          Run a specific data structure's tests. Use \"--list-tests\" to get a listing of the available test names",
    "",
    "  -b, --build [<PATH>]",
    "          Build and compile the project into the build directory specified",
    "          ",
    "          [default: ./build]",
    "",
    "  -S, --source-dir <PATH>",
    "          Project source directory handed to the configure step",
    "          ",
    "          [default: .]",
    "",
    "  -j, --jobs <N>",
    "          Worker count for compiling and running tests (default: logical cores)",
    "",
    "      --layout <LAYOUT>",
    "          Where compiled tests live inside the build directory",
    "",
    "          Possible values:",
    "          - test-bin: One binary per test under `<build>/test_bin/`",
    "          - groups:   One group per directory under `<build>/<group-dir>/`, binary in `tests/`",
    "          ",
    "          [default: test-bin]",
    "",
    "      --group-dir <NAME>",
    "          Group root inside the build directory (groups layout)",
    "          ",
    "          [default: src]",
    "",
    "      --binary-suffix <SUFFIX>",
    "          File name suffix of a group's test binary (groups layout)",
    "          ",
    "          [default: gtest]",
    "",
    "      --strict",
    "          Stop when the configure or compile step fails",
    "",
    "      --cmake <PROGRAM>",
    "          Build-system executable",
    "          ",
    "          [default: cmake]",
    "",
    "      --ctest <PROGRAM>",
    "          Test-runner executable",
    "          ",
    "          [default: ctest]",
    "",
    "  -h, --help",
    "          Print help (see a summary with '-h')",
    "",
    "  -V, --version",
    "          Print version"]

end Testbed.CommandLine.Help
