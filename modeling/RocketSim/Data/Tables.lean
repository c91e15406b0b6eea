/-!
# Data files: tabulated aerodynamic, inertia, control and atmosphere data

Tabulated data: aerodynamic coefficients and inertia of reference rockets, control laws, gain tables and the standard atmosphere. Each entry is a path relative to the repository root and the file's text.
-/

namespace RocketSim
namespace Repository

/-- The tabulated aerodynamic, inertia, control and atmosphere data, by path. -/
def tablesFiles : List (String × String) :=
  [
    ("MAPLEAF/Examples/TabulatedData/NASARocketTabulatedAeroForces.csv",
      "TotalAOA,CD,CL\n0,0.21,0\n0.034906585039887,0.23,0.24\n0.069813170079773,0.25,0.49\n0.10471975511966,0.31,0.73\n0.139626340159546,0.38,1\n0.174532925199433,0.48,1.6\n"),
    ("MAPLEAF/Examples/TabulatedData/NASARocketTabulatedAeroMoments.csv",
      "AOA,CMy\n-0.349066,0.6\n0,0\n0.349066,-0.6\n"),
    ("MAPLEAF/Examples/TabulatedData/NASARocketTabulatedAeroMoments2.csv",
      "AOSS,CMx\n-0.349066,0.6\n0,0\n0.349066,-0.6\n"),
    ("MAPLEAF/Examples/TabulatedData/NASARocketTabulatedInertia.csv",
      "Time,Mass,CGx,CGy,CGz,MOIx,MOIy,MOIz\n0,314000,0,0,-16.918790,33501637.473461,33501637.473461,353250\n37.38064235,134000,0,0,-9.421642,10886636.572139,10886636.572139,150750\n134.1706424,134000,0,0,-9.421642,10886636.572139,10886636.572139,150750\n134.1706425,99000,0,0,-4.797980,941063.762626,941063.762626,111375\n195.3641384,19000,0,0,-3.947368,212384.868421,212384.868421,21375"),
    ("MAPLEAF/Examples/TabulatedData/constPIDCoeffs.txt",
      "Mach Altitude Pyz      Iyz  Dyz     Px    Ix   Dx\n0   0         1000.0   1 100.0   25.0  5 10.0\n0   100000    1000.0   1 100.0   25.0  5 10.0\n10  0         1000.0   1 100.0   25.0  5 10.0\n10  100000    1000.0   1 100.0   25.0  5 10.0"),
    ("MAPLEAF/Examples/TabulatedData/linearCanardDefls.txt",
      "Ma  Alt Mx  My  Mz  F1  F2  F3  F4\n0\t0\t0\t0\t0\t0\t0\t0\t0\n5\t0\t0\t0\t0\t0\t0\t0\t0\n0\t100000\t0\t0\t0\t0\t0\t0\t0\n5\t100000\t0\t0\t0\t0\t0\t0\t0\n0\t0\t100000\t0\t0\t10000\t0\t-10000\t0\n5\t0\t100000\t0\t0\t10000\t0\t-10000\t0\n0\t100000\t100000\t0\t0\t10000\t0\t-10000\t0\n5\t100000\t100000\t0\t0\t10000\t0\t-10000\t0\n0\t0\t0\t100000\t0\t0\t10000\t0\t-10000\n5\t0\t0\t100000\t0\t0\t10000\t0\t-10000\n0\t100000\t0\t100000\t0\t0\t10000\t0\t-10000\n5\t100000\t0\t100000\t0\t0\t10000\t0\t-10000\n0\t0\t100000\t100000\t0\t10000\t10000\t-10000\t-10000\n5\t0\t100000\t100000\t0\t10000\t10000\t-10000\t-10000\n0\t100000\t100000\t100000\t0\t10000\t10000\t-10000\t-10000\n5\t100000\t100000\t100000\t0\t10000\t10000\t-10000\t-10000\n0\t0\t0\t0\t100000\t-10000\t-10000\t-10000\t-10000\n5\t0\t0\t0\t100000\t-10000\t-10000\t-10000\t-10000\n0\t100000\t0\t0\t100000\t-10000\t-10000\t-10000\t-10000\n5\t100000\t0\t0\t100000\t-10000\t-10000\t-10000\t-10000\n0\t0\t100000\t0\t100000\t0\t-10000\t-20000\t-10000\n5\t0\t100000\t0\t100000\t0\t-10000\t-20000\t-10000\n0\t100000\t100000\t0\t100000\t0\t-10000\t-20000\t-10000\n5\t100000\t100000\t0\t100000\t0\t-10000\t-20000\t-10000\n0\t0\t0\t100000\t100000\t-10000\t0\t-10000\t-20000\n5\t0\t0\t100000\t100000\t-10000\t0\t-10000\t-20000\n0\t100000\t0\t100000\t100000\t-10000\t0\t-10000\t-20000\n5\t100000\t0\t100000\t100000\t-10000\t0\t-10000\t-20000\n0\t0\t100000\t100000\t100000\t0\t0\t-20000\t-20000\n5\t0\t100000\t100000\t100000\t0\t0\t-20000\t-20000\n0\t100000\t100000\t100000\t100000\t0\t0\t-20000\t-20000\n5\t100000\t100000\t100000\t100000\t0\t0\t-20000\t-20000\n0\t0\t0\t0\t0\t0\t0\t0\t0\n5\t0\t0\t0\t0\t0\t0\t0\t0\n0\t100000\t0\t0\t0\t0\t0\t0\t0\n5\t100000\t0\t0\t0\t0\t0\t0\t0\n0\t0\t-100000\t0\t0\t-10000\t0\t10000\t0\n5\t0\t-100000\t0\t0\t-10000\t0\t10000\t0\n0\t100000\t-100000\t0\t0\t-10000\t0\t10000\t0\n5\t100000\t-100000\t0\t0\t-10000\t0\t10000\t0\n0\t0\t0\t-100000\t0\t0\t-10000\t0\t10000\n5\t0\t0\t-100000\t0\t0\t-10000\t0\t10000\n0\t100000\t0\t-100000\t0\t0\t-10000\t0\t10000\n5\t100000\t0\t-100000\t0\t0\t-10000\t0\t10000\n0\t0\t-100000\t-100000\t0\t-10000\t-10000\t10000\t10000\n5\t0\t-100000\t-100000\t0\t-10000\t-10000\t10000\t10000\n0\t100000\t-100000\t-100000\t0\t-10000\t-10000\t10000\t10000\n5\t100000\t-100000\t-100000\t0\t-10000\t-10000\t10000\t10000\n0\t0\t0\t0\t-100000\t10000\t10000\t10000\t10000\n5\t0\t0\t0\t-100000\t10000\t10000\t10000\t10000\n0\t100000\t0\t0\t-100000\t10000\t10000\t10000\t10000\n5\t100000\t0\t0\t-100000\t10000\t10000\t10000\t10000\n0\t0\t-100000\t0\t-100000\t0\t10000\t20000\t10000\n5\t0\t-100000\t0\t-100000\t0\t10000\t20000\t10000\n0\t100000\t-100000\t0\t-100000\t0\t10000\t20000\t10000\n5\t100000\t-100000\t0\t-100000\t0\t10000\t20000\t10000\n0\t0\t0\t-100000\t-100000\t10000\t0\t10000\t20000\n5\t0\t0\t-100000\t-100000\t10000\t0\t10000\t20000\n0\t100000\t0\t-100000\t-100000\t10000\t0\t10000\t20000\n5\t100000\t0\t-100000\t-100000\t10000\t0\t10000\t20000\n0\t0\t-100000\t-100000\t-100000\t0\t0\t20000\t20000\n5\t0\t-100000\t-100000\t-100000\t0\t0\t20000\t20000\n0\t100000\t-100000\t-100000\t-100000\t0\t0\t20000\t20000\n5\t100000\t-100000\t-100000\t-100000\t0\t0\t20000\t20000\n\n\n\n\n\n"),
    ("MAPLEAF/Examples/TabulatedData/testFinDeflectionLaw.txt",
      "Ma  Alt Mx  My  Mz  F1  F2  F3  F4\n0\t0\t0\t0\t0\t0\t0\t0\t0\n1\t0\t0\t0\t0\t1\t6\t11\t16\n0\t1\t0\t0\t0\t2\t7\t12\t17\n1\t1\t0\t0\t0\t3\t13\t23\t33\n0\t0\t1\t0\t0\t3\t8\t13\t18\n1\t0\t1\t0\t0\t4\t14\t24\t34\n0\t1\t1\t0\t0\t5\t15\t25\t35\n1\t1\t1\t0\t0\t6\t21\t36\t51\n0\t0\t0\t1\t0\t4\t9\t14\t19\n1\t0\t0\t1\t0\t5\t15\t25\t35\n0\t1\t0\t1\t0\t6\t16\t26\t36\n1\t1\t0\t1\t0\t7\t22\t37\t52\n0\t0\t1\t1\t0\t7\t17\t27\t37\n1\t0\t1\t1\t0\t8\t23\t38\t53\n0\t1\t1\t1\t0\t9\t24\t39\t54\n1\t1\t1\t1\t0\t10\t30\t50\t70\n0\t0\t0\t0\t1\t5\t10\t15\t20\n1\t0\t0\t0\t1\t6\t16\t26\t36\n0\t1\t0\t0\t1\t7\t17\t27\t37\n1\t1\t0\t0\t1\t8\t23\t38\t53\n0\t0\t1\t0\t1\t8\t18\t28\t38\n1\t0\t1\t0\t1\t9\t24\t39\t54\n0\t1\t1\t0\t1\t10\t25\t40\t55\n1\t1\t1\t0\t1\t11\t31\t51\t71\n0\t0\t0\t1\t1\t9\t19\t29\t39\n1\t0\t0\t1\t1\t10\t25\t40\t55\n0\t1\t0\t1\t1\t11\t26\t41\t56\n1\t1\t0\t1\t1\t12\t32\t52\t72\n0\t0\t1\t1\t1\t12\t27\t42\t57\n1\t0\t1\t1\t1\t13\t33\t53\t73\n0\t1\t1\t1\t1\t14\t34\t54\t74\n1\t1\t1\t1\t1\t15\t40\t65\t90"),
    ("MAPLEAF/Examples/TabulatedData/testPIDControlLaw.txt",
      "Mach Altitude Pyz Iyz Dyz Px Ix Dx\n0.1  0        1   2   3   4   5   6\n0.1  1        7   8   9   11  12  13\n0.2  0        14  15  16  17  18  19\n0.2  1        20  21  22  23  24  25"),
    ("MAPLEAF/ENV/US_STANDARD_ATMOSPHERE.txt",
      "h\tT\tP\trho\tmu\n-2000\t301.2\t127800\t1.478\t1.851\n-1000\t294.65\t113900\t1.347\t1.821\n0\t288.15\t101300\t1.225\t1.789\n1000\t281.65\t89880\t1.112\t1.758\n2000\t275.15\t79500\t1.007\t1.726\n3000\t268.66\t70120\t0.9093\t1.694\n4000\t262.17\t61660\t0.8194\t1.661\n5000\t255.68\t54050\t0.7364\t1.628\n6000\t249.19\t47220\t0.6601\t1.595\n7000\t242.7\t41110\t0.59\t1.561\n8000\t236.21\t35650\t0.5258\t1.527\n9000\t229.73\t30800\t0.4671\t1.493\n10000\t223.25\t26500\t0.4135\t1.458\n12000\t216.6\t19400\t0.3119\t1.422\n14000\t216.6\t14170\t0.2279\t1.422\n16000\t216.6\t10350\t0.1665\t1.422\n18000\t216.6\t7565\t0.1216\t1.422\n20000\t216.6\t5529\t0.08891\t1.422\n22000\t218.6\t4047\t0.06451\t1.432\n24000\t220.6\t2972\t0.04694\t1.443\n26000\t222.5\t2188\t0.03426\t1.454\n28000\t224.5\t1616\t0.02508\t1.465\n30000\t226.5\t1197\t0.01841\t1.475\n32000\t228.5\t889\t0.01355\t1.486\n34000\t233.7\t663.4\t0.009887\t1.514\n36000\t239.3\t498.5\t0.007257\t1.543\n38000\t244.8\t377.1\t0.005366\t1.572\n40000\t250.4\t287.1\t0.003995\t1.601\n42000\t255.9\t220\t0.002995\t1.629\n44000\t261.4\t169.5\t0.002259\t1.657\n46000\t266.9\t131.3\t0.001714\t1.685\n48000\t270.6\t102.3\t0.001317\t1.704\n50000\t270.6\t79.77\t0.001027\t1.704\n52000\t269\t62.21\t0.0008055\t1.696\n54000\t263.5\t48.33\t0.0006389\t1.668\n56000\t258\t37.36\t0.0005044\t1.64\n58000\t252.5\t28.72\t0.0003962\t1.612\n60000\t247\t21.96\t0.0003096\t1.584\n62000\t241.5\t16.69\t0.0002407\t1.555\n64000\t236\t12.6\t0.000186\t1.526\n66000\t230.5\t9.459\t0.0001429\t1.497\n68000\t225.1\t7.051\t0.0001091\t1.467\n70000\t219.6\t5.22\t0.00008281\t1.438\n72000\t214.3\t3.835\t0.00006236\t1.408\n74000\t210.3\t2.8\t0.00004637\t1.387\n76000\t206.4\t2.033\t0.0000343\t1.365\n78000\t202.5\t1.467\t0.00002523\t1.343\n80000\t198.6\t1.052\t0.00001845\t1.321\n82000\t194.7\t0.7498\t0.00001341\t1.298\n84000\t190.8\t0.5308\t0.00000969\t1.276\n86000\t186.9\t0.3732\t0.000006955\t1.253\n86000.1\t186.9\t0.3732\t0\t1.253\n"),
    ("MAPLEAF/ENV/sphericalHarmonicGravityCoeffs.txt",
      "# Coeffficients from NESC-RP-12-00770, Volume II, Table 74 - GEM-T1 model\nDegree\tOrder\tC\tS\n2\t0\t-4.8416499E-04\t0.0000000E+00\n2\t1\t0.0000000E+00\t0.0000000E+00\n2\t2\t2.4389280E-06\t-1.3998397E-06\n3\t0\t9.5723751E-07\t0.0000000E+00\n3\t1\t2.0297737E-06\t2.4959463E-07\n3\t2\t9.0354910E-07\t-6.2041982E-07\n3\t3\t7.2098662E-07\t1.4131694E-06\n4\t0\t5.3873219E-07\t0.0000000E+00\n4\t1\t-5.3342722E-07\t-4.7511891E-07\n4\t2\t3.4700208E-07\t6.6403042E-07\n4\t3\t9.9097790E-07\t-2.0062149E-07\n4\t4\t-1.9003480E-07\t3.0845955E-07\n5\t0\t6.8780161E-08\t0.0000000E+00\n5\t1\t-5.8950310E-08\t-9.5543463E-08\n5\t2\t6.5579025E-07\t-3.2340559E-07\n5\t3\t-4.4820358E-07\t-2.1513633E-07\n5\t4\t-2.9482361E-07\t5.2408737E-08\n5\t5\t1.7775628E-07\t-6.6602811E-07\n6\t0\t-1.4810038E-07\t0.0000000E+00\n6\t1\t-8.1375094E-08\t2.3890050E-08\n6\t2\t5.1609578E-08\t-3.7499560E-07\n6\t3\t6.1970909E-08\t4.6429830E-09\n6\t4\t-9.2797469E-08\t-4.7330695E-07\n6\t5\t-2.6576497E-07\t-5.3774724E-07\n6\t6\t9.0593110E-09\t-2.3633442E-07\n7\t0\t9.0533705E-08\t0.0000000E+00\n7\t1\t2.7709714E-07\t9.7817738E-08\n7\t2\t3.1771079E-07\t9.1608267E-08\n7\t3\t2.5074289E-07\t-2.0916391E-07\n7\t4\t-2.7374044E-07\t-1.2202073E-07\n7\t5\t3.4749784E-09\t1.9651896E-08\n7\t6\t-3.5785266E-07\t1.5091751E-07\n7\t7\t1.5976040E-09\t2.2001281E-08\n8\t0\t4.5902321E-08\t0.0000000E+00\n8\t1\t2.8856051E-08\t5.4722278E-08\n8\t2\t7.0380074E-08\t6.8449357E-08\n8\t3\t-1.9966400E-08\t-8.6936688E-08\n8\t4\t-2.4606388E-07\t6.7745274E-08\n8\t5\t-2.4933453E-08\t8.5300324E-08\n8\t6\t-6.6417800E-08\t3.1283228E-07\n8\t7\t7.0424829E-08\t7.4862572E-08\n8\t8\t-1.1888272E-07\t1.2233200E-07")
  ]

end Repository
end RocketSim
